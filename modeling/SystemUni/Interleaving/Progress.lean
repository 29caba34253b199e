import SystemUni.Interleaving.Alone

/-!
# From running alone to runs

A thread that finishes alone finishes in a run in which nobody else moves, so
what can be done alone can be done from any configuration.
-/

set_option autoImplicit false

namespace Interleaving

variable {S : Signature} {α ε ρ : Type}

/-! ## Two views of running alone -/

section Alone

variable {allowed : S.Choice → Prop} {me : Nat} {ν : Type}
  {view : S.State → ν}

theorem alone_keeps (program : Prog S α) {post : α → S.State → Prop}
    (keeps : program.Keeps view) (store : S.State)
    (alone : Alone allowed me program post store) :
    Alone allowed me program
      (fun value later => post value later ∧ view later = view store)
      store := by
  suffices follows : ∀ start : S.State, view start = view store →
      Alone allowed me program post start →
      Alone allowed me program
        (fun value later => post value later ∧ view later = view store)
        start from follows store rfl alone
  intro start same here
  clear alone
  induction program generalizing start with
  | ret value => exact ⟨here, same⟩
  | step statement next inductionHypothesis =>
      intro choice allows
      obtain ⟨ready, continues⟩ := here choice allows
      obtain ⟨kept, later⟩ := keeps me choice start ready
      exact ⟨ready, inductionHypothesis me choice start later _
        (kept.trans same) continues⟩
  | fork child next inductionHypothesis =>
      exact inductionHypothesis keeps start same here

theorem finishes_keeps {program : ExceptT ε (Prog S) α}
    {post : α → S.State → Prop} {fail : ε → S.State → Prop}
    {store : S.State} (leaves : Leaves view program)
    (finishes : Finishes allowed me program post fail store) :
    Finishes allowed me program
      (fun value later => post value later ∧ view later = view store)
      (fun exception later => fail exception later ∧ view later = view store)
      store := by
  refine alone_mono program.run store
    (alone_keeps program.run leaves store finishes) ?_
  intro result later holds
  cases result with
  | ok value => exact holds
  | error exception => exact holds

end Alone

/-! ## In a run -/

section Runs

variable {system : System S ρ} {condition : Condition S}

theorem alone_run {allowed : S.Choice → Prop} {choice : S.Choice}
    (allows : allowed choice)
    (meets : ∀ label store, condition label choice store)
    (program : Prog S ρ) {post : ρ → S.State → Prop} (config : Config S ρ)
    (thread : Nat) (scheduled : config.threads[thread]? = some program)
    (alone : Alone allowed thread program post config.store) :
    ∃ value final, Run system condition config final ∧
      final.threads[thread]? = some (.ret value) ∧
      post value final.store := by
  induction program generalizing config with
  | ret value => exact ⟨value, config, .refl config, scheduled, alone⟩
  | step statement next inductionHypothesis =>
      obtain ⟨ready, continues⟩ := alone choice allows
      have isThread := (List.getElem?_eq_some_iff.mp scheduled).1
      have moved : Transition system config (.act thread statement.label choice)
          ⟨statement.act thread choice config.store, config.threads.set thread
            (next thread choice config.store)⟩ :=
        .act config thread statement next choice scheduled ready
      obtain ⟨value, final, run, returned, holds⟩ :=
        inductionHypothesis thread choice config.store
          ⟨statement.act thread choice config.store, config.threads.set thread
            (next thread choice config.store)⟩
          (by simp [List.getElem?_set_self isThread]) continues
      exact ⟨value, final, (Run.step (.refl config) moved
        (meets statement.label config.store)).trans run, returned, holds⟩
  | fork child next inductionHypothesis =>
      have isThread := (List.getElem?_eq_some_iff.mp scheduled).1
      have moved : Transition system config (.fork thread child)
          ⟨config.store, config.threads.set thread next ++
            [system.code child]⟩ :=
        .fork config thread child next scheduled
      have still : (config.threads.set thread next ++
          [system.code child])[thread]? = some next := by
        rw [List.getElem?_append_left (by simpa using isThread)]
        simp [isThread]
      obtain ⟨value, final, run, returned, holds⟩ := inductionHypothesis
        ⟨config.store, config.threads.set thread next ++ [system.code child]⟩
        still alone
      exact ⟨value, final,
        (Run.step (.refl config) moved trivial).trans run, returned, holds⟩

variable (condition) in
/-- What the outside may start, it may start and let finish. -/
theorem alone_arrives {allowed : S.Choice → Prop} {choice : S.Choice}
    (allows : allowed choice)
    (meets : ∀ label store, condition label choice store)
    (program : Prog S ρ) {post : ρ → S.State → Prop} (config : Config S ρ)
    (startable : system.start config.store program)
    (alone : Alone allowed config.threads.length program post config.store) :
    ∃ final, Run system condition config final ∧
      ∃ value, post value final.store := by
  have arrives : Run system condition config
      { config with threads := config.threads ++ [program] } :=
    .step (.refl config) (.arrive config program startable) trivial
  obtain ⟨value, final, run, _, holds⟩ := alone_run allows meets program
    { config with threads := config.threads ++ [program] }
    config.threads.length (by simp) alone
  exact ⟨final, arrives.trans run, value, holds⟩

/-- What can be made smaller as long as it is not zero, can be made zero. -/
theorem Run.exhausts (measure : Config S ρ → Nat) (holds : Config S ρ → Prop)
    (each : ∀ config, holds config → 0 < measure config →
      ∃ next, Run system condition config next ∧ holds next ∧
        measure next < measure config)
    (config : Config S ρ) (here : holds config) :
    ∃ final, Run system condition config final ∧ holds final ∧
      measure final = 0 := by
  induction bound : measure config using Nat.strong_induction_on
    generalizing config with
  | _ bound inductionHypothesis =>
      by_cases exhausted : measure config = 0
      · exact ⟨config, .refl config, here, exhausted⟩
      · obtain ⟨next, toNext, there, smaller⟩ :=
          each config here (Nat.pos_of_ne_zero exhausted)
        obtain ⟨final, run, finally_, isZero⟩ :=
          inductionHypothesis (measure next) (by omega) next there rfl
        exact ⟨final, toNext.trans run, finally_, isZero⟩

end Runs

end Interleaving
