/-
WolfUsb.Client.ArgumentTheorems — a number in plain hexadecimal digits is
read in decimal.

`0x` tells the two notations apart, so the digits alone are read as
another number, or refused, unless they are the same in both radices
(`plain_hex_iff`): the value of the digits is below 10, or too large in
both.
-/
import WolfUsb.Client.Arguments
import WolfUsb.Lib.Numerals

namespace WolfUsb

open Lib

namespace Arguments

/-! ## The two notations -/

theorem notMem_of_digits {cs : List Char} (h : ∀ c ∈ cs, c.isHexDigit = true) {c : Char}
    (hc : c.isHexDigit = false) : c ∉ cs := by
  intro hmem
  rw [h c hmem] at hc
  cases hc

theorem toOption_mapError {ε ε' α : Type} (f : ε → ε') (x : Except ε α) :
    (x.mapError f).toOption = x.toOption := by
  cases x <;> rfl

section

variable (max : Nat) {h : String} (hne : h ≠ "") (hdigits : ∀ c ∈ h.toList, c.isHexDigit = true)
include hne hdigits

theorem parseHex_prefixed :
    (parseHex max ("0x" ++ h)).toOption
      = if digitsValue 16 0 h.toList ≤ max then some (digitsValue 16 0 h.toList) else none := by
  have hstrip : stripPrefix "0x" ("0x" ++ h) = some h := stripPrefix_eq_some.mpr rfl
  have hsign : '+' ∉ h.toList := notMem_of_digits hdigits (by decide)
  have hread := toOption_fromStrRadix (show 0 < 16 by decide) max (by simpa using hne) hsign
  have hall : h.toList.all (fun c => (toDigit 16 c).isSome) = true :=
    List.all_eq_true.mpr fun c hc => isSome_toDigit_hex.mpr (hdigits c hc)
  rw [String.ofList_toList] at hread
  rw [parseHex, hstrip, Option.some_or, toOption_mapError, hread]
  simp only [hall, true_and]

theorem parseHex_plain :
    (parseHex max h).toOption
      = if h.toList.all (·.isDigit) ∧ digitsValue 10 0 h.toList ≤ max
        then some (digitsValue 10 0 h.toList) else none := by
  have hstrip (c : Char) (hc : c.isHexDigit = false) :
      stripPrefix (String.ofList ['0', c]) h = none := by
    rw [Option.eq_none_iff_forall_ne_some]
    intro rest hrest
    rw [stripPrefix_eq_some] at hrest
    refine notMem_of_digits hdigits hc ?_
    simp [hrest]
  have hlower : stripPrefix "0x" h = none := hstrip 'x' (by decide)
  have hupper : stripPrefix "0X" h = none := hstrip 'X' (by decide)
  have hsign : '+' ∉ h.toList := notMem_of_digits hdigits (by decide)
  have hread := toOption_fromStrRadix (show 0 < 10 by decide) max (by simpa using hne) hsign
  have hdecimal : (fun c => (toDigit 10 c).isSome) = fun c => c.isDigit :=
    funext fun c => Bool.eq_iff_iff.mpr isSome_toDigit_dec
  rw [String.ofList_toList, hdecimal] at hread
  rw [parseHex, hlower, hupper, Option.none_or, toOption_mapError, hread]

end

/-- The digits are read on their own as behind `0x`: as their hexadecimal
value if it fits. -/
structure PlainHex {α : Type} (parse : String → Except AnyhowError α) (ofNat : Nat → α)
    (max : Nat) (h : String) : Prop where
  same : (parse h).toOption = (parse ("0x" ++ h)).toOption
  value : (parse h).toOption
    = if digitsValue 16 0 h.toList ≤ max then some (ofNat (digitsValue 16 0 h.toList)) else none

/-- The digits are the same number in both radices, or too large in both. -/
def RadixFree (max : Nat) (h : String) : Prop :=
  digitsValue 16 0 h.toList < 10 ∨
    max < digitsValue 16 0 h.toList ∧
      ((∃ c ∈ h.toList, c.isDigit = false) ∨ max < digitsValue 10 0 h.toList)

/-- One width. -/
theorem plainHex_iff_radixFree {α : Type} {parse : String → Except AnyhowError α} {ofNat : Nat → α}
    {max : Nat} (hten : 10 ≤ max)
    (hparse : ∀ s, (parse s).toOption = (parseHex max s).toOption.map ofNat)
    (hinj : ∀ m ≤ max, ∀ n ≤ max, ofNat m = ofNat n → m = n) {h : String} (hne : h ≠ "")
    (hdigits : ∀ c ∈ h.toList, c.isHexDigit = true) :
    PlainHex parse ofNat max h ↔ RadixFree max h := by
  have hplain := hparse h
  have hprefixed := hparse ("0x" ++ h)
  rw [parseHex_plain max hne hdigits] at hplain
  rw [parseHex_prefixed max hne hdigits] at hprefixed
  constructor
  · rintro ⟨-, hvalue⟩
    rw [hplain] at hvalue
    by_cases hfits : digitsValue 16 0 h.toList ≤ max
    · rw [if_pos hfits] at hvalue
      split at hvalue
      · rename_i hdec
        have heq := hinj _ hdec.2 _ hfits (Option.some.inj hvalue)
        exact Or.inl ((digitsValue_dec_hex (List.all_eq_true.mp hdec.1)).2.mp heq)
      · cases hvalue
    · rw [if_neg hfits] at hvalue
      split at hvalue
      · cases hvalue
      · rename_i hdec
        refine Or.inr ⟨Nat.lt_of_not_le hfits, ?_⟩
        by_cases hall : ∀ c ∈ h.toList, c.isDigit = true
        · exact Or.inr (Nat.lt_of_not_le fun hle => hdec ⟨List.all_eq_true.mpr hall, hle⟩)
        · exact Or.inl (by simpa using hall)
  · intro hfree
    have hvalue : (parse h).toOption = if digitsValue 16 0 h.toList ≤ max
        then some (ofNat (digitsValue 16 0 h.toList)) else none := by
      rw [hplain]
      rcases hfree with hsmall | ⟨hlarge, hcase⟩
      · have hdec := isDigit_of_digitsValue_lt hdigits hsmall
        have heq := (digitsValue_dec_hex hdec).2.mpr hsmall
        have hle : digitsValue 16 0 h.toList ≤ max := by omega
        rw [heq, if_pos ⟨List.all_eq_true.mpr hdec, hle⟩, if_pos hle]
        rfl
      · have hnot : ¬ (h.toList.all (·.isDigit) ∧ digitsValue 10 0 h.toList ≤ max) := by
          rintro ⟨hall, hle⟩
          rcases hcase with ⟨c, hc, hno⟩ | hbig
          · rw [List.all_eq_true.mp hall c hc] at hno
            cases hno
          · omega
        rw [if_neg hnot, if_neg (by omega)]
        rfl
    refine ⟨?_, hvalue⟩
    rw [hvalue, hprefixed]
    split <;> rfl

theorem toOption_map {ε α β : Type} (f : α → β) (x : Except ε α) :
    (x.map f).toOption = x.toOption.map f := by
  cases x <;> rfl

/-- **Plain hexadecimal digits mean hex** exactly if the radix does not
matter. -/
theorem plain_hex_iff (h : String) (hne : h ≠ "")
    (hdigits : ∀ c ∈ h.toList, c.isHexDigit = true) :
    (PlainHex parseU8Hex UInt8.ofNat 255 h ↔ RadixFree 255 h) ∧
      (PlainHex parseU16Hex UInt16.ofNat 65535 h ↔ RadixFree 65535 h) := by
  constructor
  · refine plainHex_iff_radixFree (by decide) (fun s => toOption_map _ _) ?_ hne hdigits
    intro m hm n hn heq
    have hnat := congrArg UInt8.toNat heq
    rw [UInt8.toNat_ofNat', UInt8.toNat_ofNat'] at hnat
    omega
  · refine plainHex_iff_radixFree (by decide) (fun s => toOption_map _ _) ?_ hne hdigits
    intro m hm n hn heq
    have hnat := congrArg UInt16.toNat heq
    rw [UInt16.toNat_ofNat', UInt16.toNat_ofNat'] at hnat
    omega

theorem plain_hex_iff_seven : PlainHex parseU8Hex UInt8.ofNat 255 "07" :=
  (plain_hex_iff "07" (by decide) (List.all_eq_true.mp (by decide +kernel))).1.mpr
    (Or.inl (by decide +kernel))

/-- GET_DESCRIPTOR, with a request type. -/
def getDescriptor (requestType : String) : ControlArgs where
  sessionId := 1
  bus := 1
  addr := 2
  requestType
  request := "0x06"
  value := "0x0100"
  index := "0x00"
  length := 18

/-- Without the prefix it is an OUT request of another type. -/
theorem plain_digits_read_in_decimal :
    (getDescriptor "0x80").command = some (.ok (.control 1 1 2 0x80 6 0x100 0 18 [] 5000)) ∧
      (getDescriptor "80").command = some (.ok (.control 1 1 2 0x50 6 0x100 0 18 [] 5000)) ∧
      ¬ PlainHex parseU8Hex UInt8.ofNat 255 "80" := by
  have hplain : parseU8Hex "80" = .ok 0x50 := by decide +kernel
  have hprefixed : parseU8Hex ("0x" ++ "80") = .ok 0x80 := by decide +kernel
  refine ⟨by decide +kernel, by decide +kernel, fun h => ?_⟩
  have hsame := h.same
  rw [hplain, hprefixed] at hsame
  exact absurd hsame (by decide)

end Arguments

end WolfUsb
