/-
WolfUsb.Lib.Format — binary formats that carry their round trip.

A `Format` writes a value and reads it back from the front of what
follows; `read_write` is a field, so a format built from formats by the
combinators below is right by construction. `fits` says which values have
a representation: a length prefix has 64 bits, a list need not.

The variable-length integers are those of bincode's standard
configuration: a value below 251 is one byte, a larger one is a marker
(251, 252, 253) and its 2, 4 or 8 bytes in little-endian order.
-/
import Mathlib.Algebra.Group.Nat.Defs
import Mathlib.Data.List.Basic

namespace WolfUsb.Lib

/-- A binary format for the values that fit. -/
structure Format (α : Type) where
  fits : α → Bool
  write : α → List UInt8
  read : List UInt8 → Option (α × List UInt8)
  read_write : ∀ a rest, fits a = true → read (write a ++ rest) = some (a, rest)

/-! ## Little-endian numbers -/

/-- The `k` lowest base-256 digits, lowest first. -/
def le : Nat → Nat → List UInt8
  | 0, _ => []
  | k + 1, n => UInt8.ofNat n :: le k (n / 256)

def fromLe : List UInt8 → Nat
  | [] => 0
  | b :: rest => b.toNat + 256 * fromLe rest

@[simp] theorem le_length (k n : Nat) : (le k n).length = k := by
  induction k generalizing n with
  | zero => rfl
  | succ k ih => rw [le, List.length_cons, ih]

theorem fromLe_le {k n : Nat} (h : n < 256 ^ k) : fromLe (le k n) = n := by
  induction k generalizing n with
  | zero =>
      rw [Nat.pow_zero] at h
      rw [le, fromLe]
      omega
  | succ k ih =>
      have hdiv : n / 256 < 256 ^ k := by
        rw [Nat.pow_succ] at h
        exact Nat.div_lt_of_lt_mul (by omega)
      rw [le, fromLe, ih hdiv, UInt8.toNat_ofNat']
      omega

/-- The first `n` bytes and what follows them. -/
def takeExactly (n : Nat) (bytes : List UInt8) : Option (List UInt8 × List UInt8) :=
  if n ≤ bytes.length then some (bytes.take n, bytes.drop n) else none

theorem takeExactly_append (bytes rest : List UInt8) :
    takeExactly bytes.length (bytes ++ rest) = some (bytes, rest) := by
  simp [takeExactly]

namespace Format

/-! ## Variable-length integers -/

/-- `varint`: the value itself, or a marker and its bytes. -/
def writeVarint (n : Nat) : List UInt8 :=
  if n < 251 then [UInt8.ofNat n]
  else if n < 256 ^ 2 then 251 :: le 2 n
  else if n < 256 ^ 4 then 252 :: le 4 n
  else 253 :: le 8 n

/-- The number of bytes `writeVarint` takes. -/
def varintSize (n : Nat) : Nat :=
  if n < 251 then 1 else if n < 256 ^ 2 then 3 else if n < 256 ^ 4 then 5 else 9

theorem writeVarint_length (n : Nat) : (writeVarint n).length = varintSize n := by
  unfold writeVarint varintSize
  split
  · rfl
  · split
    · rfl
    · split <;> rfl

theorem varintSize_le (n : Nat) : varintSize n ≤ 9 := by
  unfold varintSize
  split
  · decide
  · split
    · decide
    · split <;> decide

/-- The digits after a marker, which an integer of `width` bytes allows up
to its own width. -/
def readDigits (width k : Nat) (rest : List UInt8) : Option (Nat × List UInt8) :=
  if k ≤ width then (takeExactly k rest).map fun r => (fromLe r.1, r.2) else none

/-- Read a `varint` into an integer of `width` bytes. -/
def readVarint (width : Nat) : List UInt8 → Option (Nat × List UInt8)
  | [] => none
  | b :: rest =>
      if b < 251 then some (b.toNat, rest)
      else if b = 251 then readDigits width 2 rest
      else if b = 252 then readDigits width 4 rest
      else if b = 253 then readDigits width 8 rest
      else none

theorem readDigits_le {width k n : Nat} (hk : k ≤ width) (hn : n < 256 ^ k) (rest : List UInt8) :
    readDigits width k (le k n ++ rest) = some (n, rest) := by
  have htake := takeExactly_append (le k n) rest
  rw [le_length] at htake
  rw [readDigits, if_pos hk, htake, Option.map_some, fromLe_le hn]

/-- A number below `256 ^ a` that is not below `256 ^ b` is of more than
`b` bytes. -/
theorem width_of_large {width b n : Nat} (hn : n < 256 ^ width) (hb : ¬ n < 256 ^ b) :
    b < width := by
  by_contra h
  exact hb (Nat.lt_of_lt_of_le hn (Nat.pow_le_pow_right (by decide) (Nat.le_of_not_lt h)))

/-- The integers of 2, 4 and 8 bytes. -/
def Width (width : Nat) : Prop := width = 2 ∨ width = 4 ∨ width = 8

theorem readVarint_write {width n : Nat} (hw : Width width) (hn : n < 256 ^ width)
    (rest : List UInt8) : readVarint width (writeVarint n ++ rest) = some (n, rest) := by
  have hmax : width ≤ 8 := by
    rcases hw with rfl | rfl | rfl <;> decide
  unfold writeVarint
  split
  · rename_i hsmall
    have hb : (UInt8.ofNat n).toNat = n := by
      rw [UInt8.toNat_ofNat']
      omega
    have hlt : UInt8.ofNat n < 251 := by
      rw [UInt8.lt_iff_toNat_lt, hb]
      exact hsmall
    rw [List.singleton_append, readVarint, if_pos hlt, hb]
  · split
    · rename_i h₂
      have hwide : 2 ≤ width := by
        rcases hw with rfl | rfl | rfl <;> decide
      exact readDigits_le hwide h₂ rest
    · rename_i h₂
      have hwide := width_of_large hn h₂
      split
      · rename_i h₄
        have hwide : 4 ≤ width := by
          rcases hw with rfl | rfl | rfl <;> omega
        exact readDigits_le hwide h₄ rest
      · rename_i h₄
        have hwide := width_of_large hn h₄
        have hwide : 8 ≤ width := by
          rcases hw with rfl | rfl | rfl <;> omega
        have h₈ : n < 256 ^ 8 :=
          Nat.lt_of_lt_of_le hn (Nat.pow_le_pow_right (by decide) hmax)
        exact readDigits_le hwide h₈ rest

/-- Integers of `width` bytes. -/
def varint (width : Nat) (hw : Width width) : Format Nat where
  fits n := n < 256 ^ width
  write := writeVarint
  read := readVarint width
  read_write _ rest h := readVarint_write hw (of_decide_eq_true h) rest

/-! ## Combinators -/

section Combinators

variable {α β : Type}

def byte : Format UInt8 where
  fits _ := true
  write b := [b]
  read
    | [] => none
    | b :: rest => some (b, rest)
  read_write _ _ _ := rfl

/-- Nothing at all. -/
def unit : Format Unit where
  fits _ := true
  write _ := []
  read bytes := some ((), bytes)
  read_write _ _ _ := rfl

/-- One value after another. -/
def seq (f : Format α) (g : Format β) : Format (α × β) where
  fits x := f.fits x.1 && g.fits x.2
  write x := f.write x.1 ++ g.write x.2
  read bytes :=
    match f.read bytes with
    | none => none
    | some (a, rest) => (g.read rest).map fun r => ((a, r.1), r.2)
  read_write x rest h := by
    rw [Bool.and_eq_true] at h
    rw [List.append_assoc, f.read_write _ _ h.1]
    simp only [g.read_write _ _ h.2, Option.map_some]

/-- The same bytes for another type, where a value may be refused. -/
def refine (f : Format α) (pack : α → Option β) (unpack : β → α)
    (h : ∀ b, f.fits (unpack b) = true → pack (unpack b) = some b) : Format β where
  fits b := f.fits (unpack b)
  write b := f.write (unpack b)
  read bytes :=
    match f.read bytes with
    | none => none
    | some (a, rest) => (pack a).map fun b => (b, rest)
  read_write b rest hfits := by
    rw [f.read_write _ _ hfits]
    simp only [h b hfits, Option.map_some]

/-- The same bytes for an equivalent type. -/
def imap (f : Format α) (pack : α → β) (unpack : β → α) (h : ∀ b, pack (unpack b) = b) :
    Format β :=
  f.refine (fun a => some (pack a)) unpack (fun b _ => congrArg some (h b))

def bool : Format Bool :=
  byte.refine (fun b => if b = 0 then some false else if b = 1 then some true else none)
    (fun v => if v then 1 else 0) (fun v _ => by cases v <;> rfl)

def option (f : Format α) : Format (Option α) where
  fits
    | none => true
    | some a => f.fits a
  write
    | none => [0]
    | some a => 1 :: f.write a
  read
    | [] => none
    | b :: rest =>
        if b = 0 then some (none, rest)
        else if b = 1 then (f.read rest).map fun r => (some r.1, r.2)
        else none
  read_write x rest h := by
    cases x with
    | none => rfl
    | some a =>
        show (f.read (f.write a ++ rest)).map _ = _
        rw [f.read_write a rest h, Option.map_some]

/-- `n` values, one after the other. -/
def readN (f : Format α) : Nat → List UInt8 → Option (List α × List UInt8)
  | 0, bytes => some ([], bytes)
  | n + 1, bytes =>
      match f.read bytes with
      | none => none
      | some (a, rest) => (readN f n rest).map fun r => (a :: r.1, r.2)

theorem readN_write (f : Format α) (xs : List α) (rest : List UInt8)
    (h : ∀ x ∈ xs, f.fits x = true) :
    readN f xs.length (xs.flatMap f.write ++ rest) = some (xs, rest) := by
  induction xs with
  | nil => rfl
  | cons x xs ih =>
      have hx := f.read_write x (xs.flatMap f.write ++ rest) (h x List.mem_cons_self)
      rw [List.flatMap_cons, List.append_assoc, List.length_cons, readN, hx]
      simp only [ih fun y hy => h y (List.mem_cons_of_mem x hy), Option.map_some]

/-- A list behind its length in 64 bits. -/
def list (f : Format α) : Format (List α) where
  fits xs := decide (xs.length < 256 ^ 8) && xs.all f.fits
  write xs := writeVarint xs.length ++ xs.flatMap f.write
  read bytes :=
    match readVarint 8 bytes with
    | none => none
    | some (n, rest) => readN f n rest
  read_write xs rest h := by
    rw [Bool.and_eq_true, decide_eq_true_iff, List.all_eq_true] at h
    rw [List.append_assoc, readVarint_write (Or.inr (Or.inr rfl)) h.1]
    exact readN_write f xs rest h.2

/-- A byte string behind its length. -/
def bytes : Format (List UInt8) where
  fits bs := bs.length < 256 ^ 8
  write bs := writeVarint bs.length ++ bs
  read bytes :=
    match readVarint 8 bytes with
    | none => none
    | some (n, rest) => takeExactly n rest
  read_write bs rest h := by
    rw [List.append_assoc, readVarint_write (Or.inr (Or.inr rfl)) (of_decide_eq_true h)]
    exact takeExactly_append bs rest

/-- A byte array of a fixed length, without a prefix. -/
def array (n : Nat) : Format (Vector UInt8 n) where
  fits _ := true
  write v := v.toList
  read bytes :=
    if h : n ≤ bytes.length then
      some (⟨(bytes.take n).toArray, by simp [h]⟩, bytes.drop n)
    else none
  read_write v rest _ := by
    have hlen : v.toList.length = n := v.length_toList
    have hle : n ≤ (v.toList ++ rest).length := by
      rw [List.length_append, hlen]
      exact Nat.le_add_right n rest.length
    rw [dif_pos hle]
    have htake : (v.toList ++ rest).take n = v.toList := List.take_left' hlen
    have hdrop : (v.toList ++ rest).drop n = rest := List.drop_left' hlen
    simp only [htake, hdrop]
    rfl

/-- A string as its UTF-8 bytes. -/
def string : Format String :=
  bytes.refine (fun bs => String.fromUTF8? ⟨bs.toArray⟩) (fun s => s.toUTF8.data.toList)
    (fun s _ => dif_pos s.isValidUTF8)

def uint16 : Format UInt16 :=
  (varint 2 (Or.inl rfl)).imap UInt16.ofNat UInt16.toNat fun _ => UInt16.ofNat_toNat

def uint32 : Format UInt32 :=
  (varint 4 (Or.inr (Or.inl rfl))).imap UInt32.ofNat UInt32.toNat fun _ => UInt32.ofNat_toNat

def uint64 : Format UInt64 :=
  (varint 8 (Or.inr (Or.inr rfl))).imap UInt64.ofNat UInt64.toNat fun _ => UInt64.ofNat_toNat

/-- An enumeration by the index of its constructor. -/
def enumeration (index : α → Nat) (ofIndex : Nat → Option α)
    (h : ∀ a, ofIndex (index a) = some a) : Format α :=
  (varint 4 (Or.inr (Or.inl rfl))).refine ofIndex index fun a _ => h a

/-- Read a value and wrap it. -/
def readAs (f : Format α) (wrap : α → β) (bytes : List UInt8) : Option (β × List UInt8) :=
  (f.read bytes).map fun r => (wrap r.1, r.2)

theorem readAs_write (f : Format α) (wrap : α → β) (a : α) (rest : List UInt8)
    (h : f.fits a = true) : f.readAs wrap (f.write a ++ rest) = some (wrap a, rest) := by
  rw [readAs, f.read_write a rest h, Option.map_some]

end Combinators

/-! ## Self-delimiting readers

A reader that says by itself where it ends reads a front of the bytes, and
the same value from that front whatever follows it. Such a reader cannot
read a strict part of what was written: it would have read the same from
the whole, and left something over. -/

section Parts

variable {α β : Type}

/-- What is read from the front is read whatever follows. -/
class Stable (read : List UInt8 → Option (α × List UInt8)) : Prop where
  read_append : ∀ bytes a rest, read bytes = some (a, rest) →
    ∀ more, read (bytes ++ more) = some (a, rest ++ more)

/-- What is read is read from a front of the bytes, whatever follows. -/
class SelfDelimiting (read : List UInt8 → Option (α × List UInt8)) : Prop where
  read_front : ∀ bytes a rest, read bytes = some (a, rest) →
    ∃ front, bytes = front ++ rest ∧ ∀ more, read (front ++ more) = some (a, more)

open Stable SelfDelimiting

instance stable_of_selfDelimiting (read : List UInt8 → Option (α × List UInt8))
    [SelfDelimiting read] : Stable read where
  read_append bytes a rest h more := by
    obtain ⟨front, rfl, hfront⟩ := read_front bytes a rest h
    rw [List.append_assoc]
    exact hfront (rest ++ more)

/-- What is read is renamed. -/
theorem map_selfDelimiting {read : List UInt8 → Option (α × List UInt8)} [SelfDelimiting read]
    (f : α → β) : SelfDelimiting fun bytes => (read bytes).map fun r => (f r.1, r.2) where
  read_front bytes b rest h := by
    obtain ⟨⟨a, left⟩, hread, heq⟩ := Option.map_eq_some_iff.mp h
    cases heq
    obtain ⟨front, rfl, hfront⟩ := read_front bytes a left hread
    exact ⟨front, rfl, fun more => by simp [hfront]⟩

/-- One thing is read, and what comes next depends on it. -/
theorem bind_selfDelimiting {read : List UInt8 → Option (β × List UInt8)}
    (first : List UInt8 → Option (α × List UInt8)) (next : α → List UInt8 → Option (β × List UInt8))
    [SelfDelimiting first] [∀ a, SelfDelimiting (next a)]
    (hread : ∀ bytes, read bytes = (first bytes).bind fun r => next r.1 r.2) :
    SelfDelimiting read where
  read_front bytes b rest h := by
    rw [hread] at h
    obtain ⟨⟨a, left⟩, hfirst, hnext⟩ := Option.bind_eq_some_iff.mp h
    obtain ⟨front, rfl, hfront⟩ := read_front bytes a left hfirst
    obtain ⟨back, rfl, hback⟩ := read_front left b rest hnext
    refine ⟨front ++ back, by rw [List.append_assoc], fun more => ?_⟩
    rw [hread, List.append_assoc, hfront]
    exact hback more

instance takeExactly_selfDelimiting (n : Nat) : SelfDelimiting (takeExactly n) where
  read_front bytes a rest h := by
    unfold takeExactly at h
    split at h
    · rename_i hle
      cases h
      refine ⟨bytes.take n, (List.take_append_drop n bytes).symm, fun more => ?_⟩
      have hlen : (bytes.take n).length = n := by simp [hle]
      have htake := takeExactly_append (bytes.take n) more
      rwa [hlen] at htake
    · cases h

instance readDigits_selfDelimiting (width k : Nat) : SelfDelimiting (readDigits width k) where
  read_front bytes a rest h := by
    by_cases hk : k ≤ width
    · simp only [readDigits, if_pos hk] at h ⊢
      exact (map_selfDelimiting fromLe).read_front bytes a rest h
    · simp [readDigits, hk] at h

instance readVarint_selfDelimiting (width : Nat) : SelfDelimiting (readVarint width) where
  read_front bytes a rest h := by
    cases bytes with
    | nil => cases h
    | cons b bytes =>
        -- behind a marker, what was read is the marker and the front of the digits
        have hdigits : ∀ k, (∀ more, readVarint width (b :: more) = readDigits width k more) →
            ∃ front, b :: bytes = front ++ rest ∧
              ∀ more, readVarint width (front ++ more) = some (a, more) := by
          intro k hk
          rw [hk] at h
          obtain ⟨front, rfl, hfront⟩ := read_front bytes a rest h
          exact ⟨b :: front, rfl, fun more => by rw [List.cons_append, hk, hfront]⟩
        by_cases hsmall : b < 251
        · simp only [readVarint, if_pos hsmall] at h
          cases h
          exact ⟨[b], rfl, fun more => by simp [readVarint, hsmall]⟩
        · by_cases h₂ : b = 251
          · exact hdigits 2 fun more => by simp [readVarint, h₂]
          · by_cases h₄ : b = 252
            · exact hdigits 4 fun more => by simp [readVarint, h₄]
            · by_cases h₈ : b = 253
              · exact hdigits 8 fun more => by simp [readVarint, h₈]
              · simp [readVarint, hsmall, h₂, h₄, h₈] at h

instance varint_selfDelimiting (width : Nat) (hw : Width width) :
    SelfDelimiting (varint width hw).read :=
  readVarint_selfDelimiting width

instance byte_selfDelimiting : SelfDelimiting byte.read where
  read_front bytes a rest h := by
    cases bytes with
    | nil => cases h
    | cons b bytes =>
        cases h
        exact ⟨[a], rfl, fun more => rfl⟩

instance unit_selfDelimiting : SelfDelimiting unit.read where
  read_front bytes a rest h := by
    cases h
    exact ⟨[], rfl, fun more => rfl⟩

instance seq_selfDelimiting (f : Format α) (g : Format β) [SelfDelimiting f.read]
    [SelfDelimiting g.read] : SelfDelimiting (f.seq g).read :=
  have (a : α) : SelfDelimiting fun bytes => (g.read bytes).map fun r => ((a, r.1), r.2) :=
    map_selfDelimiting fun b => (a, b)
  bind_selfDelimiting f.read (fun a bytes => (g.read bytes).map fun r => ((a, r.1), r.2))
    fun bytes => by cases h : f.read bytes <;> simp [seq, h]

instance refine_selfDelimiting (f : Format α) [SelfDelimiting f.read] (pack : α → Option β)
    (unpack : β → α) (h : ∀ b, f.fits (unpack b) = true → pack (unpack b) = some b) :
    SelfDelimiting (f.refine pack unpack h).read where
  read_front bytes b rest hread := by
    simp only [refine] at hread ⊢
    split at hread
    · cases hread
    · rename_i a left hfirst
      obtain ⟨b', hpack, heq⟩ := Option.map_eq_some_iff.mp hread
      cases heq
      obtain ⟨front, rfl, hfront⟩ := read_front bytes a rest hfirst
      exact ⟨front, rfl, fun more => by simp [hfront, hpack]⟩

instance imap_selfDelimiting (f : Format α) [SelfDelimiting f.read] (pack : α → β)
    (unpack : β → α) (h : ∀ b, pack (unpack b) = b) :
    SelfDelimiting (f.imap pack unpack h).read :=
  refine_selfDelimiting f _ _ _

instance bool_selfDelimiting : SelfDelimiting bool.read := refine_selfDelimiting byte _ _ _

instance option_selfDelimiting (f : Format α) [SelfDelimiting f.read] :
    SelfDelimiting f.option.read where
  read_front bytes x rest h := by
    cases bytes with
    | nil => cases h
    | cons b bytes =>
        simp only [option] at h
        split at h
        · rename_i h₀
          cases h
          exact ⟨[b], rfl, fun more => by simp [option, h₀]⟩
        · rename_i h₀
          split at h
          · rename_i h₁
            obtain ⟨front, rfl, hfront⟩ :=
              (map_selfDelimiting some).read_front bytes x rest h
            refine ⟨b :: front, rfl, fun more => ?_⟩
            simp only [option, List.cons_append, if_neg h₀, if_pos h₁]
            exact hfront more
          · cases h

instance readN_selfDelimiting (f : Format α) [SelfDelimiting f.read] (n : Nat) :
    SelfDelimiting (readN f n) := by
  induction n with
  | zero =>
      constructor
      intro bytes xs rest h
      cases h
      exact ⟨[], rfl, fun more => rfl⟩
  | succ n ih =>
      have (a : α) : SelfDelimiting fun bytes => (readN f n bytes).map fun r => (a :: r.1, r.2) :=
        map_selfDelimiting (a :: ·)
      refine bind_selfDelimiting f.read
        (fun a bytes => (readN f n bytes).map fun r => (a :: r.1, r.2)) fun bytes => ?_
      cases h : f.read bytes <;> simp [readN, h]

instance list_selfDelimiting (f : Format α) [SelfDelimiting f.read] :
    SelfDelimiting f.list.read :=
  bind_selfDelimiting (readVarint 8) (readN f) fun bytes => by
    cases h : readVarint 8 bytes <;> simp [list, h]

instance bytes_selfDelimiting : SelfDelimiting bytes.read :=
  bind_selfDelimiting (readVarint 8) takeExactly fun rest => by
    cases h : readVarint 8 rest <;> simp [bytes, h]

instance array_selfDelimiting (n : Nat) : SelfDelimiting (array n).read where
  read_front bytes v rest h := by
    simp only [array] at h ⊢
    split at h
    · rename_i hle
      cases h
      refine ⟨bytes.take n, (List.take_append_drop n bytes).symm, fun more => ?_⟩
      have hlen : (bytes.take n).length = n := by simp [hle]
      rw [dif_pos (by simp [hlen])]
      simp [hlen]
    · cases h

instance string_selfDelimiting : SelfDelimiting string.read := refine_selfDelimiting bytes _ _ _

instance uint16_selfDelimiting : SelfDelimiting uint16.read :=
  imap_selfDelimiting (varint 2 _) _ _ _

instance uint32_selfDelimiting : SelfDelimiting uint32.read :=
  imap_selfDelimiting (varint 4 _) _ _ _

instance uint64_selfDelimiting : SelfDelimiting uint64.read :=
  imap_selfDelimiting (varint 8 _) _ _ _

instance enumeration_selfDelimiting (index : α → Nat) (ofIndex : Nat → Option α)
    (h : ∀ a, ofIndex (index a) = some a) :
    SelfDelimiting (enumeration index ofIndex h).read :=
  refine_selfDelimiting (varint 4 _) _ _ _

instance readAs_selfDelimiting (f : Format α) [SelfDelimiting f.read] (wrap : α → β) :
    SelfDelimiting (f.readAs wrap) :=
  map_selfDelimiting wrap

/-- **A strict part of what was written is not read.** -/
theorem read_take_eq_none (f : Format α) [Stable f.read] {a : α} (hfits : f.fits a = true)
    {k : Nat} (hk : k < (f.write a).length) : f.read ((f.write a).take k) = none := by
  cases hread : f.read ((f.write a).take k) with
  | none => rfl
  | some r =>
      have hwhole := read_append _ r.1 r.2 hread ((f.write a).drop k)
      rw [List.take_append_drop, ← List.append_nil (f.write a), f.read_write a [] hfits] at hwhole
      have hleft := (Prod.ext_iff.mp (Option.some.inj hwhole)).2
      simp only [List.append_nil] at hleft
      have hdrop := (List.append_eq_nil_iff.mp hleft.symm).2
      have := List.drop_eq_nil_iff.mp hdrop
      omega

end Parts

end Format

end WolfUsb.Lib
