/-
WolfUsb.Client.HexDataTheorems — what `parse_hex_data` does with the text
of `--data`.

After the separators and prefixes are gone the text is cut into pieces of
two bytes, from left to right, until one is not accepted. `Cuts` says when
such a piece ends inside a character (`parse_hex_data_total_iff`);
`Pairs` which texts are accepted, and as what: a `+` may stand for the
first digit of a pair (`parse_hex_data_exact_iff`).
-/
import WolfUsb.Client.Display
import WolfUsb.Lib.Numerals

namespace WolfUsb.Display

open Lib

/-! ## The pieces -/

/-- The slice that is taken after a front part. -/
theorem hexByte_append (front rest : List Char) :
    hexByte (String.ofList (front ++ rest)) (byteLength front)
      = (takeBytes rest 2).map fun pair => pairByte (byteLength front) (String.ofList pair) := by
  rw [hexByte, slice_append, Option.map_map]
  rfl

theorem takeBytes_wide {c : Char} (hc : 2 < c.utf8Size) (rest : List Char) :
    takeBytes (c :: rest) 2 = none := by
  rw [takeBytes, if_neg (by omega)]

theorem takeBytes_two {c : Char} (hc : c.utf8Size = 2) (rest : List Char) :
    takeBytes (c :: rest) 2 = some [c] := by
  have hlen : byteLength [c] = 2 := by simp [hc]
  rw [← hlen]
  exact takeBytes_append [c] rest

theorem takeBytes_split {c d : Char} (hc : c.utf8Size = 1) (hd : 1 < d.utf8Size)
    (rest : List Char) : takeBytes (c :: d :: rest) 2 = none := by
  have hno : takeBytes (d :: rest) 1 = none := by
    rw [takeBytes, if_neg (by omega)]
  rw [takeBytes, if_pos (by omega), hc, hno]
  rfl

theorem takeBytes_pair {c d : Char} (hc : c.utf8Size = 1) (hd : d.utf8Size = 1)
    (rest : List Char) : takeBytes (c :: d :: rest) 2 = some [c, d] := by
  have hlen : byteLength [c, d] = 2 := by simp [hc, hd]
  rw [← hlen]
  exact takeBytes_append [c, d] rest

theorem utf8Size_eq_one {c : Char} (hc : c.toNat < 128) : c.utf8Size = 1 := by
  have hle : c.val ≤ 0x7f := UInt32.le_iff_toNat_le.mpr (Nat.le_of_lt_succ hc)
  simp [Char.utf8Size, hle]

/-- A character of several bytes is no number. -/
theorem pairByte_wide {c : Char} (hc : 1 < c.utf8Size) (i : Nat) :
    ∃ e, pairByte i (String.ofList [c]) = .error e := by
  have hwide : 128 ≤ c.toNat := by
    by_contra h
    have := utf8Size_eq_one (Nat.lt_of_not_le h)
    omega
  have hplus : c ≠ '+' := by
    rintro rfl
    exact absurd hwide (by decide)
  have hread : fromStrRadix 16 255 (String.ofList [c]) = .error .invalidDigit := by
    rw [fromStrRadix_of_unsigned 16 255 hplus, parseDigits, toDigit_of_le hwide]
  rw [pairByte, hread]
  exact ⟨_, rfl⟩

/-- What `from_str_radix` makes of two characters. -/
inductive PairOf (c d : Char) : UInt8 → Prop
  | digits (hc : c.isHexDigit = true) (hd : d.isHexDigit = true) :
      PairOf c d (UInt8.ofNat (16 * hexValue c + hexValue d))
  | plus (hc : c = '+') (hd : d.isHexDigit = true) : PairOf c d (UInt8.ofNat (hexValue d))

theorem PairOf.ascii {c d : Char} {b : UInt8} (h : PairOf c d b) :
    c.toNat < 128 ∧ d.toNat < 128 := by
  cases h with
  | digits hc hd => exact ⟨isHexDigit_ascii hc, isHexDigit_ascii hd⟩
  | plus hc hd =>
      subst hc
      exact ⟨by decide, isHexDigit_ascii hd⟩

theorem pairByte_eq_ok_iff (i : Nat) (c d : Char) (b : UInt8) :
    pairByte i (String.ofList [c, d]) = .ok b ↔ PairOf c d b := by
  have hpair := fromStrRadix_pair c d
  unfold pairByte
  cases hread : fromStrRadix 16 255 (String.ofList [c, d]) with
  | ok n =>
      obtain ⟨hd, hcase⟩ := (hpair n).mp hread
      dsimp only
      constructor
      · intro h
        cases h
        rcases hcase with ⟨hc, rfl⟩ | ⟨hc, rfl⟩
        · exact .digits hc hd
        · exact .plus hc hd
      · intro h
        cases h with
        | digits hc' _ =>
            rcases hcase with ⟨-, rfl⟩ | ⟨rfl, -⟩
            · rfl
            · exact absurd hc' (by decide)
        | plus hc' _ =>
            rcases hcase with ⟨hc, -⟩ | ⟨-, rfl⟩
            · subst hc'
              exact absurd hc (by decide)
            · rfl
  | error e =>
      constructor
      · intro h
        cases h
      · intro h
        have hno (n : Nat) : fromStrRadix 16 255 (String.ofList [c, d]) ≠ .ok n := by
          rw [hread]
          nofun
        cases h with
        | digits hc hd => exact absurd ((hpair _).mpr ⟨hd, Or.inl ⟨hc, rfl⟩⟩) (hno _)
        | plus hc hd => exact absurd ((hpair _).mpr ⟨hd, Or.inr ⟨hc, rfl⟩⟩) (hno _)

/-! ## The run over the pieces -/

/-- A text is cut inside a character: behind pairs that are accepted comes
a character of three or four bytes, or one byte and a wider character. -/
inductive Cuts : List Char → Prop
  | wide {c : Char} {rest : List Char} (hc : 2 < c.utf8Size) : Cuts (c :: rest)
  | split {c d : Char} {rest : List Char} (hc : c.utf8Size = 1) (hd : 1 < d.utf8Size) :
      Cuts (c :: d :: rest)
  | pair {c d : Char} {b : UInt8} {rest : List Char} (hpair : PairOf c d b) (h : Cuts rest) :
      Cuts (c :: d :: rest)

/-- A text is pairs that are accepted, and these are their bytes. -/
inductive Pairs : List Char → Bytes → Prop
  | nil : Pairs [] []
  | cons {c d : Char} {b : UInt8} {rest : List Char} {bs : Bytes} (hpair : PairOf c d b)
      (h : Pairs rest bs) : Pairs (c :: d :: rest) (b :: bs)

/-- The bytes the consecutive pairs of digits spell. -/
def spelled : List Char → Bytes
  | c :: d :: rest => UInt8.ofNat (16 * hexValue c + hexValue d) :: spelled rest
  | _ => []

theorem PairOf.unique {c d : Char} {b b' : UInt8} (h : PairOf c d b) (h' : PairOf c d b') :
    b = b' :=
  Except.ok.inj (((pairByte_eq_ok_iff 0 c d b).mpr h).symm.trans
    ((pairByte_eq_ok_iff 0 c d b').mpr h'))

theorem Cuts.tail {c d : Char} {b : UInt8} {rest : List Char} (h : Cuts (c :: d :: rest))
    (hpair : PairOf c d b) : Cuts rest := by
  have hc : c.utf8Size = 1 := utf8Size_eq_one hpair.ascii.1
  have hd : d.utf8Size = 1 := utf8Size_eq_one hpair.ascii.2
  cases h with
  | wide hwide => omega
  | split _ hwide => omega
  | pair _ h => exact h

theorem Pairs.not_cuts {rest : List Char} {bs : Bytes} (h : Pairs rest bs) : ¬ Cuts rest := by
  induction h with
  | nil => nofun
  | cons hpair _ ih => exact fun hcuts => ih (hcuts.tail hpair)

/-- What the run over the pieces of `rest` comes to. -/
structure RunOf (rest : List Char) (r : Option (Except AnyhowError Bytes)) : Prop where
  panics : r = none ↔ Cuts rest
  reads : ∀ bs, r = some (.ok bs) ↔ Pairs rest bs

namespace RunOf

variable {c d : Char} {b : UInt8} {rest : List Char}

theorem nothing : RunOf [] (some (.ok [])) where
  panics := iff_of_false nofun nofun
  reads bs := by
    constructor
    · intro h
      cases h
      exact .nil
    · intro h
      cases h
      rfl

theorem cut (h : Cuts rest) : RunOf rest none where
  panics := iff_of_true rfl h
  reads _ := iff_of_false nofun fun hpairs => hpairs.not_cuts h

/-- The text is not cut at its front, and starts with no pair. -/
theorem refused (hc : c.utf8Size ≤ 2)
    (hnext : ∀ d more, rest = d :: more → c.utf8Size = 1 → d.utf8Size ≤ 1)
    (hno : ∀ d more b, rest = d :: more → ¬ PairOf c d b) (e : AnyhowError) :
    RunOf (c :: rest) (some (.error e)) where
  panics := by
    refine iff_of_false nofun fun hcuts => ?_
    cases hcuts with
    | wide hwide => omega
    | split hone hwide =>
        have := hnext _ _ rfl hone
        omega
    | pair hpair => exact hno _ _ _ rfl hpair
  reads bs := by
    refine iff_of_false nofun fun hpairs => ?_
    cases hpairs with
    | cons hpair => exact hno _ _ _ rfl hpair

theorem accepted {r : Option (Except AnyhowError Bytes)} (hpair : PairOf c d b)
    (h : RunOf rest r) : RunOf (c :: d :: rest) (r.map (·.map (b :: ·))) where
  panics := by
    rw [Option.map_eq_none_iff, h.panics]
    exact ⟨.pair hpair, fun hcuts => hcuts.tail hpair⟩
  reads bs := by
    constructor
    · intro hr
      obtain ⟨x, rfl, hx⟩ := Option.map_eq_some_iff.mp hr
      cases x with
      | error e => cases hx
      | ok more =>
          obtain rfl := Except.ok.inj hx
          exact .cons hpair ((h.reads more).mp rfl)
    · intro hpairs
      cases hpairs with
      | cons hpair' hmore =>
          obtain rfl := hpair.unique hpair'
          rw [(h.reads _).mpr hmore]
          rfl

end RunOf

theorem runOf_collect (n : Nat) (front rest : List Char) (hlen : byteLength rest = 2 * n) :
    RunOf rest (collect (hexByte (String.ofList (front ++ rest)))
      (List.range' (byteLength front) n 2)) := by
  induction n generalizing front rest with
  | zero =>
      cases rest with
      | nil => exact .nothing
      | cons c rest =>
          have hpos := c.utf8Size_pos
          rw [byteLength_cons] at hlen
          omega
  | succ n ih =>
      rw [List.range'_succ, collect, hexByte_append]
      match rest with
      | [] => simp at hlen
      | c :: rest =>
          rw [byteLength_cons] at hlen
          have hpos := c.utf8Size_pos
          by_cases hwide : 2 < c.utf8Size
          · rw [takeBytes_wide hwide]
            exact .cut (.wide hwide)
          by_cases htwo : c.utf8Size = 2
          · obtain ⟨e, he⟩ := pairByte_wide (c := c) (by omega) (byteLength front)
            rw [takeBytes_two htwo, Option.map_some, he]
            refine .refused (by omega) (fun d more _ hone => by omega) ?_ e
            intro d more b _ hpair
            have := utf8Size_eq_one hpair.ascii.1
            omega
          have hone : c.utf8Size = 1 := by omega
          match rest with
          | [] =>
              rw [byteLength_nil] at hlen
              omega
          | d :: rest =>
              rw [byteLength_cons] at hlen
              by_cases hd : 1 < d.utf8Size
              · rw [takeBytes_split hone hd]
                exact .cut (.split hone hd)
              have hdone : d.utf8Size = 1 := by
                have := d.utf8Size_pos
                omega
              rw [takeBytes_pair hone hdone, Option.map_some]
              cases hbyte : pairByte (byteLength front) (String.ofList [c, d]) with
              | ok b =>
                  have hpair := (pairByte_eq_ok_iff _ c d b).mp hbyte
                  have hmore := ih (front ++ [c, d]) rest (by omega)
                  have hnext : byteLength (front ++ [c, d]) = byteLength front + 2 := by
                    simp [hone, hdone]
                  rw [hnext, List.append_assoc] at hmore
                  exact .accepted hpair hmore
              | error e =>
                  refine .refused (by omega) ?_ ?_ e
                  · rintro d' more ⟨⟩ -
                    omega
                  · rintro d' more b ⟨⟩ hpair
                    rw [(pairByte_eq_ok_iff _ c d b).mpr hpair] at hbyte
                    cases hbyte

/-- An even number of bytes is run over to the end. -/
theorem runOf_parseHexData {s : String} (heven : byteLength (strip s).toList % 2 = 0) :
    RunOf (strip s).toList (parseHexData s) := by
  have hhalf : byteLength (strip s).toList = 2 * ((byteLength (strip s).toList + 1) / 2) := by omega
  have hrun := runOf_collect _ [] (strip s).toList hhalf
  rw [List.nil_append, String.ofList_toList, byteLength_nil] at hrun
  rw [parseHexData, if_neg (by simpa using heven)]
  exact hrun

theorem parseHexData_odd {s : String} (hodd : byteLength (strip s).toList % 2 ≠ 0) :
    parseHexData s = some (.error ["Hex string must have even number of characters"]) := by
  rw [parseHexData, if_pos hodd]

/-- **`parse_hex_data` returns** exactly if the text is not cut inside a
character. -/
theorem parse_hex_data_total_iff (s : String) :
    (∃ r, parseHexData s = some r) ↔
      ¬ (byteLength (strip s).toList % 2 = 0 ∧ Cuts (strip s).toList) := by
  by_cases heven : byteLength (strip s).toList % 2 = 0
  · have hpanics := (runOf_parseHexData heven).panics
    rw [← Option.ne_none_iff_exists', Ne, hpanics]
    simp [heven]
  · rw [parseHexData_odd heven]
    simp [heven]

/-- The first two of its four bytes end inside a character. -/
theorem split_character_panics : ¬ ∃ r, parseHexData "aéb" = some r := by
  have hpanics : parseHexData "aéb" = none := by decide +kernel
  rw [hpanics]
  nofun

/-! ## What is accepted -/

theorem exists_pairs_iff (t : List Char) :
    (∃ bs, Pairs t bs) ↔ t.length % 2 = 0 ∧ (∀ c ∈ t, c = '+' ∨ c.isHexDigit = true) ∧
      ∀ i, t[i]? = some '+' → i % 2 = 0 := by
  have hplus : '+'.isHexDigit = false := by decide
  constructor
  · rintro ⟨bs, h⟩
    induction h with
    | nil => exact ⟨rfl, nofun, nofun⟩
    | @cons c d b rest bs hpair _ ih =>
        obtain ⟨heven, hdigits, hfirst⟩ := ih
        have hd : d.isHexDigit = true := by cases hpair <;> assumption
        have hc : c = '+' ∨ c.isHexDigit = true := by
          cases hpair with
          | digits hc _ => exact Or.inr hc
          | plus hc _ => exact Or.inl hc
        refine ⟨by rw [List.length_cons, List.length_cons]; omega, ?_, ?_⟩
        · simp only [List.forall_mem_cons]
          exact ⟨hc, Or.inr hd, hdigits⟩
        · intro i hi
          match i with
          | 0 => rfl
          | 1 =>
              obtain rfl : d = '+' := by simpa using hi
              rw [hplus] at hd
              cases hd
          | i + 2 =>
              have := hfirst i (by simpa using hi)
              omega
  · rintro ⟨heven, hdigits, hfirst⟩
    induction t using spelled.induct with
    | case1 c d rest ih =>
        simp only [List.forall_mem_cons] at hdigits
        obtain ⟨hc, hd, hdigits⟩ := hdigits
        rw [List.length_cons, List.length_cons] at heven
        obtain ⟨bs, hbs⟩ := ih (by omega) hdigits fun i hi => by
          have := hfirst (i + 2) (by simpa using hi)
          omega
        have hd : d.isHexDigit = true := by
          rcases hd with rfl | hd
          · have := hfirst 1 rfl
            omega
          · exact hd
        rcases hc with hc | hc
        · exact ⟨_, .cons (.plus hc hd) hbs⟩
        · exact ⟨_, .cons (.digits hc hd) hbs⟩
    | case2 t hshort =>
        match t with
        | [] => exact ⟨[], .nil⟩
        | [c] => simp at heven
        | c :: d :: rest => exact absurd rfl (hshort c d rest)

theorem Pairs.even {t : List Char} {bs : Bytes} (h : Pairs t bs) : t.length % 2 = 0 :=
  ((exists_pairs_iff t).mp ⟨bs, h⟩).1

theorem Pairs.ascii {t : List Char} {bs : Bytes} (h : Pairs t bs) : ∀ c ∈ t, c.toNat < 128 := by
  induction h with
  | nil => nofun
  | cons hpair _ ih =>
      simp only [List.forall_mem_cons]
      exact ⟨hpair.ascii.1, hpair.ascii.2, ih⟩

/-- Without a sign the pairs are digits, and the bytes are what they spell. -/
theorem Pairs.eq_spelled {t : List Char} {bs : Bytes} (h : Pairs t bs) (hsign : '+' ∉ t) :
    (∀ c ∈ t, c.isHexDigit = true) ∧ bs = spelled t := by
  induction h with
  | nil => exact ⟨nofun, rfl⟩
  | cons hpair _ ih =>
      simp only [List.mem_cons, not_or] at hsign
      obtain ⟨hdigits, rfl⟩ := ih hsign.2.2
      cases hpair with
      | digits hc hd => exact ⟨by simp only [List.forall_mem_cons]; exact ⟨hc, hd, hdigits⟩, rfl⟩
      | plus hc _ => exact absurd hc.symm hsign.1

theorem pairs_spelled {t : List Char} (heven : t.length % 2 = 0)
    (hdigits : ∀ c ∈ t, c.isHexDigit = true) : Pairs t (spelled t) := by
  have hsign : '+' ∉ t := fun h => absurd (hdigits _ h) (by decide)
  obtain ⟨bs, hbs⟩ := (exists_pairs_iff t).mpr ⟨heven, fun c hc => Or.inr (hdigits c hc),
    fun i hi => absurd (List.mem_of_getElem? hi) hsign⟩
  rwa [← (hbs.eq_spelled hsign).2]

/-! ## ASCII text -/

theorem byteLength_ascii {cs : List Char} (h : ∀ c ∈ cs, c.toNat < 128) :
    byteLength cs = cs.length := by
  induction cs with
  | nil => rfl
  | cons c rest ih =>
      simp only [List.forall_mem_cons] at h
      rw [byteLength_cons, utf8Size_eq_one h.1, ih h.2, List.length_cons, Nat.add_comm]

/-- What is left was there. -/
theorem mem_of_mem_strip {s : String} {c : Char} (h : c ∈ (strip s).toList) : c ∈ s.toList := by
  rw [strip, remove, String.toList_ofList] at h
  have h := (removeMatches_sublist _ _).mem h
  rw [remove, String.toList_ofList] at h
  have h := (removeMatches_sublist _ _).mem h
  rw [removeChars, String.toList_ofList] at h
  exact List.mem_of_mem_filter h

theorem not_cuts_ascii {cs : List Char} (h : ∀ c ∈ cs, c.toNat < 128) : ¬ Cuts cs := by
  intro hcuts
  induction hcuts with
  | wide hc =>
      have := utf8Size_eq_one (h _ List.mem_cons_self)
      omega
  | split _ hd =>
      have := utf8Size_eq_one (h _ (List.mem_cons_of_mem _ List.mem_cons_self))
      omega
  | pair _ _ ih => exact ih fun c hc => h c (List.mem_cons_of_mem _ (List.mem_cons_of_mem _ hc))

/-- The text is hexadecimal digits, in pairs. -/
structure HexText (t : List Char) : Prop where
  even : t.length % 2 = 0
  digits : ∀ c ∈ t, c.isHexDigit = true

/-- `parse_hex_data` accepts hexadecimal digits in pairs, as the bytes they
spell, and refuses everything else. -/
structure AcceptsHex (s : String) : Prop where
  ok : ∀ bs, parseHexData s = some (.ok bs) ↔
    HexText (strip s).toList ∧ bs = spelled (strip s).toList
  err : ¬ HexText (strip s).toList → ∃ e, parseHexData s = some (.error e)

/-- The text has a sign, in the place of the first digit of a pair only,
and is hexadecimal digits otherwise. -/
structure Signed (t : List Char) : Prop where
  even : t.length % 2 = 0
  sign : '+' ∈ t
  digits : ∀ c ∈ t, c = '+' ∨ c.isHexDigit = true
  first : ∀ i, t[i]? = some '+' → i % 2 = 0

/-- An ASCII text is accepted if it is pairs, and refused otherwise. -/
theorem parseHexData_ascii {s : String} (h : ∀ c ∈ s.toList, c.toNat < 128) :
    (∀ bs, parseHexData s = some (.ok bs) ↔ Pairs (strip s).toList bs) ∧
      ((¬ ∃ bs, Pairs (strip s).toList bs) → ∃ e, parseHexData s = some (.error e)) := by
  have hascii : ∀ c ∈ (strip s).toList, c.toNat < 128 := fun c hc => h c (mem_of_mem_strip hc)
  have hlen := byteLength_ascii hascii
  by_cases heven : byteLength (strip s).toList % 2 = 0
  · have hrun := runOf_parseHexData heven
    refine ⟨hrun.reads, fun hno => ?_⟩
    cases hr : parseHexData s with
    | none => exact absurd (hrun.panics.mp hr) (not_cuts_ascii hascii)
    | some r =>
        cases r with
        | ok bs => exact absurd ⟨bs, (hrun.reads bs).mp hr⟩ hno
        | error e => exact ⟨e, rfl⟩
  · rw [parseHexData_odd heven]
    refine ⟨fun bs => iff_of_false nofun fun hpairs => ?_, fun _ => ⟨_, rfl⟩⟩
    rw [hlen] at heven
    exact heven hpairs.even

/-- **`parse_hex_data` accepts exactly hex** unless a `+` stands for the
first digit of a pair. -/
theorem parse_hex_data_exact_iff (s : String) (h : ∀ c ∈ s.toList, c.toNat < 128) :
    AcceptsHex s ↔ ¬ Signed (strip s).toList := by
  obtain ⟨hreads, hrefuses⟩ := parseHexData_ascii h
  constructor
  · intro hexact hsigned
    obtain ⟨bs, hpairs⟩ := (exists_pairs_iff _).mpr ⟨hsigned.even, hsigned.digits, hsigned.first⟩
    have hhex := ((hexact.ok bs).mp ((hreads bs).mpr hpairs)).1
    exact absurd (hhex.digits _ hsigned.sign) (by decide)
  · intro hsigned
    have hhex {bs : Bytes} (hpairs : Pairs (strip s).toList bs) :
        HexText (strip s).toList ∧ bs = spelled (strip s).toList := by
      obtain ⟨heven, hdigits, hfirst⟩ := (exists_pairs_iff _).mp ⟨bs, hpairs⟩
      have hsign : '+' ∉ (strip s).toList := fun hmem =>
        hsigned ⟨heven, hmem, hdigits, hfirst⟩
      exact ⟨⟨heven, (hpairs.eq_spelled hsign).1⟩, (hpairs.eq_spelled hsign).2⟩
    constructor
    · intro bs
      rw [hreads]
      constructor
      · exact hhex
      · rintro ⟨htext, hbs⟩
        rw [hbs]
        exact pairs_spelled htext.even htext.digits
    · intro hno
      refine hrefuses ?_
      rintro ⟨bs, hpairs⟩
      exact hno (hhex hpairs).1

theorem parse_hex_data_exact_two_bytes : AcceptsHex "0x1A ff" :=
  (parse_hex_data_exact_iff "0x1A ff" (by simp)).mpr fun hsigned =>
    absurd hsigned.sign (by decide +kernel)

/-- A sign and a digit are a byte. -/
theorem signed_pair_accepted : parseHexData "+5" = some (.ok [5]) ∧ ¬ AcceptsHex "+5" := by
  have hread : parseHexData "+5" = some (.ok [5]) := by decide +kernel
  refine ⟨hread, fun hexact => ?_⟩
  have hhex := ((hexact.ok [5]).mp hread).1
  exact absurd (hhex.digits '+' (by decide +kernel)) (by decide)

end WolfUsb.Display
