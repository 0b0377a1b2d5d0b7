/-
WolfUsb.Lib.Runs — runs of a labelled transition system, and the rules
that carry facts about one step to facts about a whole run.

A system is a relation `step : σ → ε → σ → Prop`, read "from `s` the
event `e` may lead to `s'`"; `Guarded f` is the system of a step function
`f : σ → ε → Option σ` that is `none` where an event is not possible.
Nothing here knows what the states are.

* `Run` relates a state, a list of events and the state they lead to;
  `play` is the executable run of a step function.
* `StatesAlong I` says that `I` holds of every state a run visits,
  `StepsAlong C` that `C` holds of every step it takes.
* `statesAlong_of_stepsAlong` is the conditional invariant rule: steps
  that meet `C` preserve `I`, so a run whose steps all meet `C` stays
  in `I`; `Run.preserves_along` says it of the state a run leads to.
* `Run.simulate_along` is the rule of forward simulation, and
  `Run.follow_along` its form without observations.
-/
import Mathlib.Logic.Function.Basic

namespace WolfUsb.Lib

variable {σ ε : Type*} (step : σ → ε → σ → Prop)

/-! ## Runs -/

/-- The events lead from the first state to the last. -/
inductive Run : σ → List ε → σ → Prop
  | nil (s : σ) : Run s [] s
  | cons {s s' t : σ} {e : ε} {rest : List ε} :
      step s e s' → Run s' rest t → Run s (e :: rest) t

/-- `I` holds of the start state and of every state the run reaches. -/
def StatesAlong (I : σ → Prop) : σ → List ε → Prop
  | s, [] => I s
  | s, e :: rest => I s ∧ ∀ s', step s e s' → StatesAlong I s' rest

/-- `C` holds of every step the run takes, read on the state before the
step and the event. -/
def StepsAlong (C : σ → ε → Prop) : σ → List ε → Prop
  | _, [] => True
  | s, e :: rest => ∀ s', step s e s' → C s e ∧ StepsAlong C s' rest

variable {step}

theorem Run.append {s t u : σ} {front back : List ε} (h₁ : Run step s front t)
    (h₂ : Run step t back u) : Run step s (front ++ back) u := by
  induction h₁ with
  | nil s => exact h₂
  | cons hs _ ih => exact Run.cons hs (ih h₂)

theorem Run.single {s t : σ} {e : ε} (h : step s e t) : Run step s [e] t :=
  Run.cons h (Run.nil t)

/-! ## Invariant rules -/

theorem StatesAlong.mono {I J : σ → Prop} (hIJ : ∀ s, I s → J s) :
    ∀ {es : List ε} {s : σ}, StatesAlong step I s es → StatesAlong step J s es
  | [], _, h => hIJ _ h
  | _ :: _, _, h => ⟨hIJ _ h.1, fun s' hs => StatesAlong.mono hIJ (h.2 s' hs)⟩

theorem StatesAlong.and {I J : σ → Prop} :
    ∀ {es : List ε} {s : σ}, StatesAlong step I s es → StatesAlong step J s es →
      StatesAlong step (fun s => I s ∧ J s) s es
  | [], _, hI, hJ => ⟨hI, hJ⟩
  | _ :: _, _, hI, hJ => ⟨⟨hI.1, hJ.1⟩, fun s' hs => (hI.2 s' hs).and (hJ.2 s' hs)⟩

theorem StepsAlong.mono {C D : σ → ε → Prop} (hCD : ∀ s e, C s e → D s e) :
    ∀ {es : List ε} {s : σ}, StepsAlong step C s es → StepsAlong step D s es
  | [], _, _ => trivial
  | _ :: _, _, h => fun s' hs => ⟨hCD _ _ (h s' hs).1, StepsAlong.mono hCD (h s' hs).2⟩

theorem StepsAlong.and {C D : σ → ε → Prop} :
    ∀ {es : List ε} {s : σ}, StepsAlong step C s es → StepsAlong step D s es →
      StepsAlong step (fun s e => C s e ∧ D s e) s es
  | [], _, _, _ => trivial
  | _ :: _, _, hC, hD => fun s' hs =>
      ⟨⟨(hC s' hs).1, (hD s' hs).1⟩, (hC s' hs).2.and (hD s' hs).2⟩

/-- A condition on the events alone. -/
theorem StepsAlong.of_forall {C : ε → Prop} :
    ∀ {es : List ε} {s : σ}, (∀ e ∈ es, C e) → StepsAlong step (fun _ e => C e) s es
  | [], _, _ => trivial
  | e :: _, _, h => fun _ _ =>
      ⟨h e List.mem_cons_self, .of_forall fun e' he' => h e' (List.mem_cons_of_mem e he')⟩

/-- What holds of the states a run visits holds where it takes its steps. -/
theorem StepsAlong.and_states {C : σ → ε → Prop} {I : σ → Prop} :
    ∀ {es : List ε} {s : σ}, StepsAlong step C s es → StatesAlong step I s es →
      StepsAlong step (fun s e => C s e ∧ I s) s es
  | [], _, _, _ => trivial
  | _ :: _, _, hC, hI => fun s' hs => ⟨⟨(hC s' hs).1, hI.1⟩, (hC s' hs).2.and_states (hI.2 s' hs)⟩

/-- **Conditional invariant rule.** Steps that meet `C` preserve `I`, so a
run whose steps all meet `C` visits only states in `I`. -/
theorem statesAlong_of_stepsAlong {I : σ → Prop} {C : σ → ε → Prop}
    (hstep : ∀ s e s', I s → C s e → step s e s' → I s') :
    ∀ {es : List ε} {s : σ}, I s → StepsAlong step C s es → StatesAlong step I s es
  | [], _, hI, _ => hI
  | e :: _, s, hI, hC =>
      ⟨hI, fun s' hs =>
        statesAlong_of_stepsAlong hstep (hstep s e s' hI (hC s' hs).1 hs) (hC s' hs).2⟩

theorem StatesAlong.now {I : σ → Prop} {es : List ε} {s : σ} (h : StatesAlong step I s es) :
    I s := by
  cases es with
  | nil => exact h
  | cons e rest => exact h.1

/-- Steps between states in `I` meet `C`, so a run that visits only states
in `I` has only steps that meet `C`. -/
theorem stepsAlong_of_statesAlong {I : σ → Prop} {C : σ → ε → Prop}
    (hstep : ∀ s e s', I s → step s e s' → I s' → C s e) :
    ∀ {es : List ε} {s : σ}, StatesAlong step I s es → StepsAlong step C s es
  | [], _, _ => trivial
  | e :: _, s, h => fun s' hs =>
      ⟨hstep s e s' h.1 hs (h.2 s' hs).now, stepsAlong_of_statesAlong hstep (h.2 s' hs)⟩

/-- What every step preserves, a run preserves. -/
theorem Run.preserves {I : σ → Prop} (hstep : ∀ s e s', I s → step s e s' → I s')
    {es : List ε} {s t : σ} (hr : Run step s es t) (hI : I s) : I t := by
  induction hr with
  | nil s => exact hI
  | cons hs _ ih => exact ih (hstep _ _ _ hI hs)

/-- The state a run leads to, when its steps all meet `C`. -/
theorem Run.preserves_along {I : σ → Prop} {C : σ → ε → Prop}
    (hstep : ∀ s e s', I s → C s e → step s e s' → I s') {es : List ε} {s t : σ}
    (hr : Run step s es t) (hC : StepsAlong step C s es) (hI : I s) : I t := by
  induction hr with
  | nil s => exact hI
  | cons hs _ ih =>
      obtain ⟨hnow, hrest⟩ := hC _ hs
      exact ih hrest (hstep _ _ _ hI hnow hs)

/-! ## Simulation -/

/-- **Forward simulation.** When every step of the first system that meets
`C` is matched by a run of the second with the same observations, so is
every run whose steps all meet `C`. -/
theorem Run.simulate_along {τ δ ω : Type*} {step' : τ → δ → τ → Prop} {R : σ → τ → Prop}
    {C : σ → ε → Prop} (obs : ε → List ω) (obs' : δ → List ω)
    (hstep : ∀ s e s' t, R s t → C s e → step s e s' →
      ∃ ds t', Run step' t ds t' ∧ ds.flatMap obs' = obs e ∧ R s' t')
    {es : List ε} {s s' : σ} {t : τ} (hr : Run step s es s') (hC : StepsAlong step C s es)
    (hR : R s t) : ∃ ds t', Run step' t ds t' ∧ ds.flatMap obs' = es.flatMap obs ∧ R s' t' := by
  induction hr generalizing t with
  | nil s => exact ⟨[], t, Run.nil t, rfl, hR⟩
  | cons hs _ ih =>
      obtain ⟨hnow, hrest⟩ := hC _ hs
      obtain ⟨ds, t₁, hrun₁, hobs₁, hR₁⟩ := hstep _ _ _ t hR hnow hs
      obtain ⟨ds', t₂, hrun₂, hobs₂, hR₂⟩ := ih hrest hR₁
      refine ⟨ds ++ ds', t₂, hrun₁.append hrun₂, ?_, hR₂⟩
      rw [List.flatMap_append, List.flatMap_cons, hobs₁, hobs₂]

/-- The same where the states keep what there is to observe. -/
theorem Run.follow_along {τ δ : Type*} {step' : τ → δ → τ → Prop} {R : σ → τ → Prop}
    {C : σ → ε → Prop}
    (hstep : ∀ s e s' t, R s t → C s e → step s e s' → ∃ ds t', Run step' t ds t' ∧ R s' t')
    {es : List ε} {s s' : σ} {t : τ} (hr : Run step s es s') (hC : StepsAlong step C s es)
    (hR : R s t) : ∃ ds t', Run step' t ds t' ∧ R s' t' := by
  have hquiet : ∀ s e s' t, R s t → C s e → step s e s' →
      ∃ ds t', Run step' t ds t' ∧ (ds.flatMap fun _ => ([] : List Unit)) = [] ∧ R s' t' := by
    intro s e s' t hR hC hs
    obtain ⟨ds, t', hrun, hR'⟩ := hstep s e s' t hR hC hs
    exact ⟨ds, t', hrun, List.flatMap_eq_nil_iff.mpr fun _ _ => rfl, hR'⟩
  obtain ⟨ds, t', hrun, -, hR'⟩ := hr.simulate_along (fun _ => []) (fun _ => []) hquiet hC hR
  exact ⟨ds, t', hrun, hR'⟩

/-! ## Two systems in step

A system on `τ` that carries more than one on `σ` and moves with it: `π`
forgets the difference. -/

section Projection

variable {τ : Type*} {π : τ → σ} {step' : τ → ε → τ → Prop}

theorem StepsAlong.lift {C : σ → ε → Prop}
    (hπ : ∀ t e t', step' t e t' → step (π t) e (π t')) :
    ∀ {es : List ε} {t : τ}, StepsAlong step C (π t) es →
      StepsAlong step' (fun t e => C (π t) e) t es
  | [], _, _ => trivial
  | _ :: _, _, h => fun _ ht => ⟨(h _ (hπ _ _ _ ht)).1, (h _ (hπ _ _ _ ht)).2.lift hπ⟩

theorem StatesAlong.project {I : σ → Prop}
    (hπ : ∀ t e s', step (π t) e s' → ∃ t', step' t e t' ∧ π t' = s') :
    ∀ {es : List ε} {t : τ}, StatesAlong step' (fun t => I (π t)) t es →
      StatesAlong step I (π t) es
  | [], _, h => h
  | _ :: _, _, h => by
      refine ⟨h.1, fun s' hs => ?_⟩
      obtain ⟨t', ht, rfl⟩ := hπ _ _ s' hs
      exact (h.2 t' ht).project hπ

end Projection

/-! ## Guarded step functions -/

/-- The system of a step function that is `none` where an event is not
possible. -/
def Guarded (f : σ → ε → Option σ) (s : σ) (e : ε) (s' : σ) : Prop := f s e = some s'

/-- Play the events from the first on; `none` when one is not possible. -/
def play (f : σ → ε → Option σ) : σ → List ε → Option σ
  | s, [] => some s
  | s, e :: rest =>
      match f s e with
      | none => none
      | some s' => play f s' rest

theorem play_iff_run {f : σ → ε → Option σ} {es : List ε} {s t : σ} :
    play f s es = some t ↔ Run (Guarded f) s es t := by
  constructor
  · intro h
    induction es generalizing s with
    | nil =>
        cases h
        exact Run.nil _
    | cons e rest ih =>
        rw [play] at h
        cases hs : f s e with
        | none => simp [hs] at h
        | some s' =>
            rw [hs] at h
            exact Run.cons hs (ih h)
  · intro h
    induction h with
    | nil s => rfl
    | cons hs _ ih =>
        have hs' : f _ _ = some _ := hs
        rw [play, hs']
        exact ih

/-- A condition that can be decided on a step can be decided on a run. -/
instance StepsAlong.decidable {f : σ → ε → Option σ} {C : σ → ε → Prop}
    [∀ s e, Decidable (C s e)] : ∀ s es, Decidable (StepsAlong (Guarded f) C s es)
  | _, [] => isTrue trivial
  | s, e :: rest =>
      match h : f s e with
      | none => isTrue fun s' hs => by cases h.symm.trans hs
      | some s' =>
          have := StepsAlong.decidable (f := f) (C := C) s' rest
          decidable_of_iff (C s e ∧ StepsAlong (Guarded f) C s' rest)
            ⟨fun hC t ht => by cases h.symm.trans ht; exact hC, fun hC => hC s' h⟩

end WolfUsb.Lib
