/-
WolfUsb.Lib.Numerals — what `from_str_radix` accepts, and the value it
returns.

The parser stops at the first character that is no digit and at the first
digit with which the value is too large. It succeeds exactly on digits
whose value fits (`parseDigits_eq_ok_iff`), with one leading `+` allowed.
The hexadecimal digits and their values are those of `Char.isHexDigit`.
-/
import WolfUsb.Lib.Text

namespace WolfUsb.Lib

/-- The value of digits that follow digits of value `acc`. -/
def digitsValue (radix : Nat) (acc : Nat) (cs : List Char) : Nat :=
  cs.foldl (fun v c => v * radix + (toDigit radix c).getD 0) acc

theorem digitsValue_append (radix acc : Nat) (front rest : List Char) :
    digitsValue radix acc (front ++ rest)
      = digitsValue radix (digitsValue radix acc front) rest :=
  List.foldl_append ..

/-- Digits only add to a value. -/
theorem le_digitsValue {radix : Nat} (hradix : 0 < radix) (acc : Nat) (cs : List Char) :
    acc ≤ digitsValue radix acc cs := by
  induction cs generalizing acc with
  | nil => exact Nat.le_refl acc
  | cons c rest ih =>
      have hmul : acc ≤ acc * radix := Nat.le_mul_of_pos_right acc hradix
      exact Nat.le_trans (Nat.le_trans hmul (Nat.le_add_right _ _)) (ih _)

/-- **Digits are read exactly if their value fits.** -/
theorem parseDigits_eq_ok_iff {radix max : Nat} (hradix : 0 < radix) {acc n : Nat}
    (hacc : acc ≤ max) (cs : List Char) :
    parseDigits radix max acc cs = .ok n ↔
      (∀ c ∈ cs, (toDigit radix c).isSome = true) ∧ digitsValue radix acc cs = n ∧ n ≤ max := by
  induction cs generalizing acc with
  | nil =>
      constructor
      · intro h
        cases h
        exact ⟨nofun, rfl, hacc⟩
      · rintro ⟨-, rfl, -⟩
        rfl
  | cons c rest ih =>
      rw [parseDigits]
      cases hd : toDigit radix c with
      | none => simp [hd]
      | some d =>
          have hvalue : digitsValue radix acc (c :: rest)
              = digitsValue radix (acc * radix + d) rest := by
            simp [digitsValue, hd]
          by_cases hfits : acc * radix + d ≤ max
          · simp only [if_pos hfits, ih hfits, hvalue, List.forall_mem_cons, hd,
              Option.isSome_some, true_and]
          · simp only [if_neg hfits, hvalue]
            constructor
            · intro h
              cases h
            · rintro ⟨-, rfl, hle⟩
              exact absurd (Nat.le_trans (le_digitsValue hradix _ rest) hle) hfits

/-- Without a `+` in front a text that is not empty is digits or nothing. -/
theorem fromStrRadix_of_unsigned (radix max : Nat) {c : Char} (hc : c ≠ '+') (rest : List Char) :
    fromStrRadix radix max (String.ofList (c :: rest)) = parseDigits radix max 0 (c :: rest) := by
  have hminus : toDigit radix '-' = none := by simp [toDigit]
  rw [fromStrRadix, String.toList_ofList]
  split
  · rename_i heq
    cases heq
  · rename_i heq
    exact absurd (List.cons.inj heq).1 hc
  · rename_i heq
    obtain ⟨rfl, rfl⟩ := List.cons.inj heq
    simp [parseDigits, hminus]
  · rename_i heq
    exact absurd (List.cons.inj heq).1 hc
  · rfl

/-- A text of an unsigned number, as a number if it is one and fits. -/
theorem toOption_fromStrRadix {radix : Nat} (hradix : 0 < radix) (max : Nat) {cs : List Char}
    (hne : cs ≠ []) (hsign : '+' ∉ cs) :
    (fromStrRadix radix max (String.ofList cs)).toOption
      = if cs.all (fun c => (toDigit radix c).isSome) ∧ digitsValue radix 0 cs ≤ max
        then some (digitsValue radix 0 cs) else none := by
  obtain ⟨c, rest, rfl⟩ := List.exists_cons_of_ne_nil hne
  have hc : c ≠ '+' := by
    rintro rfl
    exact hsign List.mem_cons_self
  have hread (n : Nat) := parseDigits_eq_ok_iff (n := n) hradix (Nat.zero_le max) (c :: rest)
  rw [fromStrRadix_of_unsigned radix max hc]
  split
  · rename_i h
    rw [(hread _).mpr ⟨List.all_eq_true.mp h.1, rfl, h.2⟩]
    rfl
  · rename_i h
    cases hparse : parseDigits radix max 0 (c :: rest) with
    | error e => rfl
    | ok n =>
        obtain ⟨hdigits, rfl, hle⟩ := (hread n).mp hparse
        exact absurd ⟨List.all_eq_true.mpr hdigits, hle⟩ h

/-! ## Hexadecimal digits -/

/-- The value of a hexadecimal digit, in either case. -/
def hexValue (c : Char) : Nat := "0123456789abcdef".toList.idxOf c.toLower

/-- What holds of the 128 ASCII characters. -/
theorem forall_ascii {P : Char → Prop} (h : ∀ n : Fin 128, P (Char.ofNat n)) {c : Char}
    (hc : c.toNat < 128) : P c := by
  have hn := h ⟨c.toNat, hc⟩
  rwa [Char.ofNat_toNat] at hn

/-- No digit, of whatever radix, is outside ASCII. -/
theorem toDigit_of_le {c : Char} (hc : 128 ≤ c.toNat) (radix : Nat) : toDigit radix c = none := by
  have h9 : ¬ c ≤ '9' := fun h => absurd (Nat.le_trans hc h) (by decide)
  have hz : ¬ c ≤ 'z' := fun h => absurd (Nat.le_trans hc h) (by decide)
  have hZ : ¬ c ≤ 'Z' := fun h => absurd (Nat.le_trans hc h) (by decide)
  simp [toDigit, h9, hz, hZ]

theorem isHexDigit_ascii {c : Char} (h : c.isHexDigit = true) : c.toNat < 128 := by
  have hbound (n : UInt32) (hn : n.toNat < 128) (hc : c.val ≤ n) : c.toNat < 128 :=
    Nat.lt_of_le_of_lt (UInt32.le_iff_toNat_le.mp hc) hn
  simp only [Char.isHexDigit, Char.isDigit, Bool.or_eq_true, Bool.and_eq_true,
    decide_eq_true_eq] at h
  rcases h with (⟨-, hc⟩ | ⟨-, hc⟩) | ⟨-, hc⟩
  · exact hbound _ (by decide) hc
  · exact hbound _ (by decide) hc
  · exact hbound _ (by decide) hc

/-- A hexadecimal digit is read as its value, and nothing else is. -/
theorem toDigit_hex (c : Char) :
    toDigit 16 c = if c.isHexDigit then some (hexValue c) else none := by
  by_cases hc : c.toNat < 128
  · exact forall_ascii (P := fun c => toDigit 16 c
      = if c.isHexDigit then some (hexValue c) else none) (by decide +kernel) hc
  · rw [toDigit_of_le (Nat.le_of_not_lt hc)]
    split
    · rename_i h
      exact absurd (isHexDigit_ascii h) hc
    · rfl

/-- A decimal digit has the same value in both radices. -/
theorem toDigit_dec (c : Char) :
    toDigit 10 c = if c.isDigit then some (hexValue c) else none := by
  by_cases hc : c.toNat < 128
  · exact forall_ascii (P := fun c => toDigit 10 c
      = if c.isDigit then some (hexValue c) else none) (by decide +kernel) hc
  · rw [toDigit_of_le (Nat.le_of_not_lt hc)]
    split
    · rename_i h
      exact absurd (isHexDigit_ascii (by simp [Char.isHexDigit, h])) hc
    · rfl

/-- The digits numerals are written with. -/
theorem digitChar_hex : ∀ d < 16,
    (Nat.digitChar d).isHexDigit = true ∧ hexValue (Nat.digitChar d) = d := by
  decide +kernel

theorem isSome_toDigit_hex {c : Char} : (toDigit 16 c).isSome = true ↔ c.isHexDigit = true := by
  rw [toDigit_hex]
  split <;> simp [*]

theorem hexValue_lt {c : Char} (h : c.isHexDigit = true) : hexValue c < 16 := by
  have hdigit := toDigit_hex c
  rw [if_pos h, toDigit] at hdigit
  simpa using (Option.filter_eq_some_iff.mp hdigit).2

theorem isSome_toDigit_dec {c : Char} : (toDigit 10 c).isSome = true ↔ c.isDigit = true := by
  rw [toDigit_dec]
  split <;> simp [*]

/-- Decimal digits are worth more in hexadecimal, unless they are worth
less than 10. -/
theorem digitsValue_dec_hex {cs : List Char} (h : ∀ c ∈ cs, c.isDigit = true) :
    digitsValue 10 0 cs ≤ digitsValue 16 0 cs ∧
      (digitsValue 10 0 cs = digitsValue 16 0 cs ↔ digitsValue 16 0 cs < 10) := by
  induction cs using List.reverseRecOn with
  | nil => exact ⟨Nat.le_refl 0, iff_of_true rfl (by decide)⟩
  | append_singleton front c ih =>
      obtain ⟨hle, -⟩ := ih fun d hd => h d (List.mem_append_left _ hd)
      have hc := h c (List.mem_append_right _ List.mem_cons_self)
      have hhex : c.isHexDigit = true := by simp [Char.isHexDigit, hc]
      have hlast : toDigit 10 c = some (hexValue c) := by rw [toDigit_dec, if_pos hc]
      have hlt : hexValue c < 10 := by
        rw [toDigit] at hlast
        simpa using (Option.filter_eq_some_iff.mp hlast).2
      rw [digitsValue_append, digitsValue_append]
      simp only [digitsValue, List.foldl_cons, List.foldl_nil, hlast, toDigit_hex, if_pos hhex,
        Option.getD_some] at hle ⊢
      omega

/-- Hexadecimal digits worth less than 10 are decimal. -/
theorem isDigit_of_digitsValue_lt {cs : List Char} (h : ∀ c ∈ cs, c.isHexDigit = true)
    (hlt : digitsValue 16 0 cs < 10) : ∀ c ∈ cs, c.isDigit = true := by
  have hdecimal (c : Char) (hc : c.isHexDigit = true) (hsmall : hexValue c < 10) :
      c.isDigit = true :=
    forall_ascii (P := fun c => c.isHexDigit = true → hexValue c < 10 → c.isDigit = true)
      (by decide +kernel) (isHexDigit_ascii hc) hc hsmall
  induction cs using List.reverseRecOn with
  | nil => nofun
  | append_singleton front c ih =>
      rw [List.forall_mem_append] at h ⊢
      have hc := h.2 c List.mem_cons_self
      rw [digitsValue_append] at hlt
      simp only [digitsValue, List.foldl_cons, List.foldl_nil, toDigit_hex, if_pos hc,
        Option.getD_some] at hlt
      refine ⟨ih h.1 ?_, List.forall_mem_singleton.mpr (hdecimal c hc (by omega))⟩
      simp only [digitsValue, toDigit_hex]
      omega

/-- A pair of characters is a number of one byte exactly if both are
digits, or the first is a `+`. -/
theorem fromStrRadix_pair (c d : Char) (n : Nat) :
    fromStrRadix 16 255 (String.ofList [c, d]) = .ok n ↔
      d.isHexDigit = true ∧ (c.isHexDigit = true ∧ n = 16 * hexValue c + hexValue d ∨
        c = '+' ∧ n = hexValue d) := by
  have hone : fromStrRadix 16 255 (String.ofList ['+', d]) = parseDigits 16 255 0 [d] := by
    simp [fromStrRadix]
  have hplus : '+'.isHexDigit = false := by decide
  by_cases hc : c = '+'
  · subst hc
    rw [hone, parseDigits_eq_ok_iff (by decide) (by decide)]
    simp only [List.forall_mem_singleton, isSome_toDigit_hex, hplus, Bool.false_eq_true, false_and,
      true_and, false_or]
    constructor
    · rintro ⟨hd, rfl, -⟩
      simp [hd, digitsValue, toDigit_hex]
    · rintro ⟨hd, rfl⟩
      have hlt := hexValue_lt hd
      simp [hd, digitsValue, toDigit_hex]
      omega
  · rw [fromStrRadix_of_unsigned 16 255 hc, parseDigits_eq_ok_iff (by decide) (by decide)]
    simp only [List.forall_mem_cons, isSome_toDigit_hex, hc, false_and, or_false]
    constructor
    · rintro ⟨⟨hhigh, hlow⟩, rfl, -⟩
      simp [hhigh, hlow, digitsValue, toDigit_hex, Nat.mul_comm]
    · rintro ⟨hlow, hhigh, rfl⟩
      have hlt := hexValue_lt hlow
      have hlt' := hexValue_lt hhigh
      simp [hhigh, hlow, digitsValue, toDigit_hex, Nat.mul_comm]
      omega

end WolfUsb.Lib
