/-
WolfUsb.Lib.Wire — big-endian integers, zero-padded byte fields, and
exact reads from a stream that arrives in pieces.
-/
import Mathlib.Data.List.Basic
import Mathlib.Data.Nat.Bitwise

namespace WolfUsb.Lib

/-! ## Integers -/

/-- `u16::to_be_bytes`. -/
def be16 (x : UInt16) : List UInt8 := [(x >>> 8).toUInt8, x.toUInt8]

/-- `u32::to_be_bytes`. -/
def be32 (x : UInt32) : List UInt8 :=
  [(x >>> 24).toUInt8, (x >>> 16).toUInt8, (x >>> 8).toUInt8, x.toUInt8]

/-- `u16::from_be_bytes`. -/
def fromBe16 (a b : UInt8) : UInt16 := a.toUInt16 <<< 8 ||| b.toUInt16

/-- `u32::from_be_bytes`. -/
def fromBe32 (a b c d : UInt8) : UInt32 :=
  a.toUInt32 <<< 24 ||| b.toUInt32 <<< 16 ||| c.toUInt32 <<< 8 ||| d.toUInt32

@[simp] theorem be16_length (x : UInt16) : (be16 x).length = 2 := rfl

@[simp] theorem be32_length (x : UInt32) : (be32 x).length = 4 := rfl

/-- A number of 32 bits is made of its four bytes. -/
theorem octets_of_lt {n : Nat} (h : n < 2 ^ 32) :
    ((n >>> 24) % 2 ^ 8) <<< 24 % 2 ^ 32 ||| ((n >>> 16) % 2 ^ 8) <<< 16 % 2 ^ 32 |||
      ((n >>> 8) % 2 ^ 8) <<< 8 % 2 ^ 32 ||| n % 2 ^ 8 = n := by
  -- bit by bit: bit `i` comes from the byte that `i / 8` names
  refine Nat.eq_of_testBit_eq fun i => ?_
  have hhigh : 32 ≤ i → n.testBit i = false := fun hi =>
    Nat.testBit_eq_false_of_lt (Nat.lt_of_lt_of_le h (Nat.pow_le_pow_right (by decide) hi))
  have hadd : ∀ k, k ≤ i → k + (i - k) = i := fun k hk => Nat.add_sub_cancel' hk
  simp only [Nat.testBit_lor, Nat.testBit_mod_two_pow, Nat.testBit_shiftLeft,
    Nat.testBit_shiftRight]
  grind

/-- What `to_be_bytes` writes, `from_be_bytes` reads. -/
theorem fromBe32_be32 (x : UInt32) :
    fromBe32 (x >>> 24).toUInt8 (x >>> 16).toUInt8 (x >>> 8).toUInt8 x.toUInt8 = x := by
  refine UInt32.toNat_inj.mp ?_
  simp only [fromBe32, UInt32.toNat_or, UInt32.toNat_shiftLeft, UInt8.toNat_toUInt32,
    UInt32.toNat_toUInt8, UInt32.toNat_shiftRight]
  exact octets_of_lt x.toNat_lt

/-- A number of 16 bits is made of its two bytes. -/
theorem octets_of_lt_16 {n : Nat} (h : n < 2 ^ 16) :
    ((n >>> 8) % 2 ^ 8) <<< 8 % 2 ^ 16 ||| n % 2 ^ 8 = n := by
  refine Nat.eq_of_testBit_eq fun i => ?_
  have hhigh : 16 ≤ i → n.testBit i = false := fun hi =>
    Nat.testBit_eq_false_of_lt (Nat.lt_of_lt_of_le h (Nat.pow_le_pow_right (by decide) hi))
  have hadd : 8 ≤ i → 8 + (i - 8) = i := fun hi => Nat.add_sub_cancel' hi
  simp only [Nat.testBit_lor, Nat.testBit_mod_two_pow, Nat.testBit_shiftLeft,
    Nat.testBit_shiftRight]
  grind

theorem fromBe16_be16 (x : UInt16) : fromBe16 (x >>> 8).toUInt8 x.toUInt8 = x := by
  refine UInt16.toNat_inj.mp ?_
  simp only [fromBe16, UInt16.toNat_or, UInt16.toNat_shiftLeft, UInt8.toNat_toUInt16,
    UInt16.toNat_toUInt8, UInt16.toNat_shiftRight]
  exact octets_of_lt_16 x.toNat_lt

/-! ## Padded fields -/

/-- `[0u8; n]` with as many of the bytes copied to its front as fit. -/
def padded (n : Nat) (bytes : List UInt8) : List UInt8 :=
  bytes.take n ++ List.replicate (n - bytes.length) 0

@[simp] theorem padded_length (n : Nat) (bytes : List UInt8) : (padded n bytes).length = n := by
  simp only [padded, List.length_append, List.length_take, List.length_replicate]
  omega

/-- The padding adds no other byte than 0. -/
theorem count_padded {b : UInt8} (hb : b ≠ 0) (n : Nat) (bytes : List UInt8) :
    (padded n bytes).count b = (bytes.take n).count b := by
  have hpad : (List.replicate (n - bytes.length) (0 : UInt8)).count b = 0 := by
    rw [List.count_replicate]
    simp [Ne.symm hb]
  rw [padded, List.count_append, hpad, Nat.add_zero]

/-- What is shorter than its field, and has no zero byte, ends at the first
zero. -/
theorem takeWhile_padded {n : Nat} {bytes : List UInt8} (hlen : bytes.length < n)
    (hzero : 0 ∉ bytes) : (padded n bytes).takeWhile (· ≠ 0) = bytes := by
  have hall : ∀ b ∈ bytes, decide (b ≠ 0) = true := by
    intro b hb
    simp only [decide_eq_true_eq]
    rintro rfl
    exact hzero hb
  obtain ⟨k, hk⟩ : ∃ k, n - bytes.length = k + 1 := ⟨n - bytes.length - 1, by omega⟩
  rw [padded, List.take_of_length_le (Nat.le_of_lt hlen), List.takeWhile_append_of_pos hall, hk]
  simp [List.replicate_succ]

/-! ## Reading -/

/-- `read_exact` into a buffer of `n` bytes, on a stream that yields the
pieces one read after the other; the end of the stream, or an empty piece,
is an error. What is left of the last piece stays in the stream. -/
def readExact : Nat → List (List UInt8) → Option (List UInt8 × List (List UInt8))
  | 0, pieces => some ([], pieces)
  | _ + 1, [] => none
  | _ + 1, [] :: _ => none
  | n + 1, (b :: bytes) :: rest =>
      if bytes.length ≤ n then
        match readExact (n - bytes.length) rest with
        | none => none
        | some (more, rest) => some (b :: bytes ++ more, rest)
      else some ((b :: bytes).take (n + 1), (b :: bytes).drop (n + 1) :: rest)

/-- **A stream is read as it was written, however it is cut.** -/
theorem readExact_cut {n : Nat} {pieces : List (List UInt8)} {front rest : List UInt8}
    (hne : [] ∉ pieces) (hcut : pieces.flatten = front ++ rest) (hlen : front.length = n) :
    ∃ left, readExact n pieces = some (front, left) ∧ [] ∉ left ∧ left.flatten = rest := by
  induction pieces generalizing n front with
  | nil =>
    obtain ⟨rfl, rfl⟩ := List.append_eq_nil_iff.mp hcut.symm
    subst hlen
    exact ⟨[], by simp [readExact], hne, rfl⟩
  | cons piece tail ih =>
    obtain ⟨b, bytes, rfl⟩ : ∃ b bytes, piece = b :: bytes := by
      refine List.exists_cons_of_ne_nil ?_
      rintro rfl
      exact hne List.mem_cons_self
    have htail : [] ∉ tail := fun h => hne (List.mem_cons_of_mem _ h)
    rw [List.flatten_cons] at hcut
    cases n with
    | zero =>
      obtain rfl := List.length_eq_zero_iff.mp hlen
      exact ⟨(b :: bytes) :: tail, by simp [readExact], hne, by simpa using hcut⟩
    | succ n =>
      by_cases hle : bytes.length ≤ n
      · -- the piece is a part of the front
        obtain ⟨front', rfl⟩ : ∃ front', front = b :: bytes ++ front' :=
          (List.prefix_of_prefix_length_le ⟨_, hcut⟩ (List.prefix_append front rest)
            (by rw [hlen]; simpa using hle)).imp fun _ h => h.symm
        rw [List.append_assoc, List.append_cancel_left_eq] at hcut
        have hlen' : front'.length = n - bytes.length := by
          simp only [List.length_append, List.length_cons] at hlen
          omega
        obtain ⟨left, hread, hleft⟩ := ih htail hcut hlen'
        exact ⟨left, by simp [readExact, hle, hread], hleft⟩
      · -- the front is a part of the piece
        obtain ⟨more, hmore⟩ : ∃ more, b :: bytes = front ++ more :=
          (List.prefix_of_prefix_length_le (List.prefix_append front rest) ⟨_, hcut⟩
            (by rw [hlen]; simp; omega)).imp fun _ h => h.symm
        have hne' : more ≠ [] := by
          rintro rfl
          have := congrArg List.length hmore
          simp at this
          omega
        rw [hmore, List.append_assoc, List.append_cancel_left_eq] at hcut
        refine ⟨more :: tail, ?_, ?_, hcut⟩
        · rw [readExact, if_neg hle, hmore, ← hlen, List.take_left, List.drop_left]
        · simp only [List.mem_cons, not_or]
          exact ⟨Ne.symm hne', htail⟩

end WolfUsb.Lib
