/-
WolfUsb.Lib.Indexing — partial maps that number a set exactly.

`Indexes f K` says that the partial map `f` from tickets to keys is
injective and that its range is the set `K`: every key of `K` has exactly
one ticket and every ticket names a key of `K`. The two update lemmas are
equivalences. Adding a new key keeps the numbering exact only under an
unused ticket, and removing a key only together with the ticket that
names it.

`Numbers f K` asks for less: keys of `K` may go without a ticket. Adding a
new key keeps it under any ticket, and removing one only together with the
one ticket that may name it.
-/
import Mathlib.Data.Set.Insert
import Mathlib.Logic.Function.Basic

namespace WolfUsb.Lib

variable {τ κ : Type*}

/-- `f` numbers the set `K`: it is injective and its range is `K`. -/
structure Indexes (f : τ → Option κ) (K : Set κ) : Prop where
  inj : ∀ t u k, f t = some k → f u = some k → t = u
  range : ∀ k, k ∈ K ↔ ∃ t, f t = some k

theorem indexes_empty : Indexes (fun _ : τ => (none : Option κ)) ∅ where
  inj := by intro t u k h; cases h
  range := by intro k; simp

variable [DecidableEq τ] {f : τ → Option κ} {K : Set κ}

/-- A new key may be numbered by an unused ticket and by no other. -/
theorem Indexes.insert_iff (h : Indexes f K) (t : τ) {k : κ} (hk : k ∉ K) :
    Indexes (Function.update f t (some k)) (insert k K) ↔ f t = none := by
  have hfresh : ∀ u, f u ≠ some k := fun u hu => hk ((h.range k).mpr ⟨u, hu⟩)
  constructor
  · intro h'
    -- an old key under `t` would lose its only ticket
    cases hold : f t with
    | none => rfl
    | some k₀ =>
        have hmem : k₀ ∈ insert k K := Set.mem_insert_of_mem k ((h.range k₀).mpr ⟨t, hold⟩)
        obtain ⟨u, hu⟩ := (h'.range k₀).mp hmem
        by_cases hut : u = t
        · subst hut
          rw [Function.update_self] at hu
          exact absurd (hold.trans hu.symm) (hfresh u)
        · rw [Function.update_of_ne hut] at hu
          exact absurd (h.inj u t k₀ hu hold) hut
  · intro hnone
    constructor
    · intro u v k' hu hv
      by_cases hut : u = t <;> by_cases hvt : v = t
      · rw [hut, hvt]
      · subst hut
        rw [Function.update_self] at hu
        rw [Function.update_of_ne hvt] at hv
        exact absurd (hv.trans hu.symm) (hfresh v)
      · subst hvt
        rw [Function.update_self] at hv
        rw [Function.update_of_ne hut] at hu
        exact absurd (hu.trans hv.symm) (hfresh u)
      · rw [Function.update_of_ne hut] at hu
        rw [Function.update_of_ne hvt] at hv
        exact h.inj u v k' hu hv
    · intro k'
      rw [Set.mem_insert_iff, h.range k']
      constructor
      · rintro (rfl | ⟨u, hu⟩)
        · exact ⟨t, Function.update_self ..⟩
        · have hut : u ≠ t := by
            rintro rfl
            rw [hnone] at hu
            cases hu
          exact ⟨u, by rw [Function.update_of_ne hut]; exact hu⟩
      · rintro ⟨u, hu⟩
        by_cases hut : u = t
        · subst hut
          rw [Function.update_self] at hu
          exact Or.inl (Option.some.inj hu).symm
        · rw [Function.update_of_ne hut] at hu
          exact Or.inr ⟨u, hu⟩

/-- A key may be removed together with the ticket that names it and with
no other. -/
theorem Indexes.erase_iff (h : Indexes f K) (t : τ) {k : κ} (hk : k ∈ K) :
    Indexes (Function.update f t none) (K \ {k}) ↔ f t = some k := by
  obtain ⟨t₀, ht₀⟩ := (h.range k).mp hk
  constructor
  · intro h'
    by_cases htt : t = t₀
    · rw [htt, ht₀]
    · -- the ticket of `k` survives and names a key that is gone
      have hmem : k ∈ K \ {k} :=
        (h'.range k).mpr ⟨t₀, by rw [Function.update_of_ne (Ne.symm htt)]; exact ht₀⟩
      exact absurd rfl hmem.2
  · intro ht
    constructor
    · intro u v k' hu hv
      by_cases hut : u = t
      · rw [hut, Function.update_self] at hu
        cases hu
      · by_cases hvt : v = t
        · rw [hvt, Function.update_self] at hv
          cases hv
        · rw [Function.update_of_ne hut] at hu
          rw [Function.update_of_ne hvt] at hv
          exact h.inj u v k' hu hv
    · intro k'
      rw [Set.mem_sdiff, Set.mem_singleton_iff, h.range k']
      constructor
      · rintro ⟨⟨u, hu⟩, hne⟩
        have hut : u ≠ t := by
          rintro rfl
          exact hne (Option.some.inj (hu.symm.trans ht))
        exact ⟨u, by rw [Function.update_of_ne hut]; exact hu⟩
      · rintro ⟨u, hu⟩
        by_cases hut : u = t
        · rw [hut, Function.update_self] at hu
          cases hu
        · rw [Function.update_of_ne hut] at hu
          refine ⟨⟨u, hu⟩, ?_⟩
          rintro rfl
          exact hut (h.inj u t k' hu ht)

/-! ## Keys without tickets -/

/-- `f` numbers keys of `K` only, and none of them twice. -/
structure Numbers (f : τ → Option κ) (K : Set κ) : Prop where
  inj : ∀ t u k, f t = some k → f u = some k → t = u
  sound : ∀ t k, f t = some k → k ∈ K

omit [DecidableEq τ] in
theorem numbers_empty : Numbers (fun _ : τ => (none : Option κ)) ∅ where
  inj := by intro t u k h; cases h
  sound := by intro t k h; cases h

/-- A new key may be numbered by any ticket. -/
theorem Numbers.insert (h : Numbers f K) (t : τ) {k : κ} (hk : k ∉ K) :
    Numbers (Function.update f t (some k)) (insert k K) := by
  have hfresh : ∀ u, f u ≠ some k := fun u hu => hk (h.sound u k hu)
  constructor
  · intro u v k' hu hv
    rw [Function.update_apply] at hu hv
    split at hu <;> split at hv
    · simp_all
    · cases hu
      exact absurd hv (hfresh v)
    · cases hv
      exact absurd hu (hfresh u)
    · exact h.inj u v k' hu hv
  · intro u k' hu
    rw [Function.update_apply] at hu
    split at hu
    · cases hu
      exact Set.mem_insert k K
    · exact Set.mem_insert_of_mem k (h.sound u k' hu)

/-- A key may be removed together with the only ticket that may name it. -/
theorem Numbers.erase_iff (h : Numbers f K) (t : τ) (k : κ) :
    Numbers (Function.update f t none) (K \ {k}) ↔ ∀ u, f u = some k → u = t := by
  constructor
  · intro h' u hu
    by_contra hut
    have hkept : Function.update f t none u = some k := by rw [Function.update_of_ne hut, hu]
    exact (h'.sound u k hkept).2 rfl
  · intro honly
    constructor
    · intro u v k' hu hv
      rw [Function.update_apply] at hu hv
      split at hu
      · cases hu
      · split at hv
        · cases hv
        · exact h.inj u v k' hu hv
    · intro u k' hu
      rw [Function.update_apply] at hu
      split at hu
      · cases hu
      · rename_i hut
        refine ⟨h.sound u k' hu, ?_⟩
        rintro rfl
        exact hut (honly u hu)

end WolfUsb.Lib
