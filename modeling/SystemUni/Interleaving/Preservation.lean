import SystemUni.Interleaving.Atomicity

/-!
# Properties that every program keeps

Where all programs of a system follow a law, every step of a run obeys it.  A
property that each of their statements keeps, whatever the store, is kept by
the run.
-/

set_option autoImplicit false

namespace Interleaving

variable {S : Signature} {α ρ : Type}

/-- All programs that the system can start follow the law. -/
structure System.Follows (system : System S ρ) (law : Law S) : Prop where
  starts : ∀ store program, system.start store program → program.Follows law
  children : ∀ child, (system.code child).Follows law

/-- The law of keeping a property of the store. -/
def keeping (holds : S.State → Prop) : Law S :=
  fun _ _ _ before after => holds before → holds after

theorem Prog.Follows.weaken {program : Prog S α} {law other : Law S}
    (follows : program.Follows law)
    (implies : ∀ me label choice before after,
      law me label choice before after → other me label choice before after) :
    program.Follows other := by
  induction program with
  | ret value => trivial
  | step statement next inductionHypothesis =>
      intro me choice store ready
      obtain ⟨lawful, later⟩ := follows me choice store ready
      exact ⟨implies _ _ _ _ _ lawful,
        inductionHypothesis me choice store later⟩
  | fork child next inductionHypothesis => exact inductionHypothesis follows

theorem Prog.Keeps.keeping {ν : Type} {view : S.State → ν}
    {program : Prog S α} (keeps : program.Keeps view) (holds : ν → Prop) :
    program.Follows (keeping fun store => holds (view store)) := by
  induction program with
  | ret value => trivial
  | step statement next inductionHypothesis =>
      intro me choice store ready
      obtain ⟨same, later⟩ := keeps me choice store ready
      refine ⟨fun held => ?_, inductionHypothesis me choice store later⟩
      exact (congrArg holds same).mpr held
  | fork child next inductionHypothesis => exact inductionHypothesis keeps

/-- The law of leaving a view of the store alone. -/
def leaving {ν : Type} (view : S.State → ν) : Law S :=
  fun _ _ _ before after => view after = view before

theorem Prog.follows_leaving {ν : Type} {view : S.State → ν}
    {program : Prog S α} :
    program.Follows (leaving view) ↔ program.Keeps view := by
  induction program with
  | ret value => exact Iff.rfl
  | step statement next inductionHypothesis =>
      refine forall_congr' fun me => forall_congr' fun choice =>
        forall_congr' fun store => ?_
      exact imp_congr_right fun _ =>
        and_congr Iff.rfl (inductionHypothesis me choice store)
  | fork child next inductionHypothesis => exact inductionHypothesis

section Runs

variable {system : System S ρ} {condition : Condition S}
  {first last : Config S ρ} {law : Law S}

theorem Prog.Follows.obeyed {thread : Nat} {program : Prog S ρ}
    (follows : program.Follows law) (run : Run system condition first last)
    (found : first.threads[thread]? = some program) {label : S.Label}
    {choice : S.Choice} {next : Config S ρ}
    (transition : Transition system last (.act thread label choice) next) :
    law thread label choice last.store next.store := by
  obtain ⟨rest, here, restFollows⟩ := run.thread_under (Prog.Follows law)
    (fun _ _ me choice store ready _ holds => (holds me choice store ready).2)
    (fun _ _ holds => holds) found follows
  cases transition with
  | act thread statement next choice scheduled ready =>
      rw [here] at scheduled
      cases Option.some.inj scheduled
      exact (restFollows thread choice last.store ready).1

theorem System.Follows.threads (follows : system.Follows law)
    (run : Run system condition first last)
    (initially : ∀ program ∈ first.threads, program.Follows law) :
    ∀ program ∈ last.threads, program.Follows law :=
  run.threads _ initially follows.starts follows.children
    (fun _ _ me choice store ready holds => (holds me choice store ready).2)
    fun _ _ holds => holds

theorem System.Follows.preserves {holds : S.State → Prop}
    (follows : system.Follows (keeping holds))
    (run : Run system condition first last)
    (initially : ∀ program ∈ first.threads, program.Follows (keeping holds)) :
    holds first.store → holds last.store := by
  refine run.relates (fun before after => holds before → holds after)
    (fun _ held => held) (fun early late held => late (early held)) ?_
  intro middle next thread label choice before transition _
  cases transition with
  | act thread statement rest choice scheduled ready =>
      have lawful := follows.threads before initially _
        (List.mem_of_getElem? scheduled)
      exact (lawful thread choice middle.store ready).1

end Runs

/-! ## Properties that statements rely on -/

/-- Statements that keep a property of the store, as long as it holds. -/
def keepingScope (condition : Condition S) (holds : S.State → Prop) :
    Scope S Unit where
  view _ := ()
  condition label choice store := condition label choice store ∧ holds store
  law := keeping holds

theorem Prog.Follows.settles {condition : Condition S} {holds : S.State → Prop}
    {program : Prog S α} (follows : program.Follows (keeping holds)) :
    program.Settles (keepingScope condition holds) fun _ => True := by
  induction program with
  | ret value => trivial
  | step statement next inductionHypothesis =>
      intro me choice store ready _
      obtain ⟨kept, later⟩ := follows me choice store ready
      exact ⟨kept, rfl, inductionHypothesis me choice store later⟩
  | fork child next inductionHypothesis => exact inductionHypothesis follows

/-- All programs that the system can start settle. -/
structure System.Settles {ν : Type} (system : System S ρ) (scope : Scope S ν) :
    Prop where
  starts : ∀ store program, system.start store program →
    program.Settles scope fun _ => True
  children : ∀ child, (system.code child).Settles scope fun _ => True

section Keeping

variable {system : System S ρ} {condition : Condition S}
  {holds : S.State → Prop} {first last : Config S ρ}

/-- Where every program keeps the property relying on it, the statements of a
run can rely on it. -/
theorem System.Settles.holding {narrow : Condition S}
    (settles : system.Settles (keepingScope condition holds))
    (implies : ∀ label choice store, narrow label choice store →
      condition label choice store)
    (run : Run system narrow first last)
    (initially : ∀ program ∈ first.threads,
      program.Settles (keepingScope condition holds) fun _ => True)
    (held : holds first.store) :
    Run system (keepingScope narrow holds).condition first last ∧
      holds last.store ∧ ∀ program ∈ last.threads,
        program.Settles (keepingScope condition holds) fun _ => True := by
  induction run with
  | refl => exact ⟨.refl _, held, initially⟩
  | @step middle last event before transition admitted inductionHypothesis =>
      obtain ⟨relying, kept, threads⟩ := inductionHypothesis
      have happened := transition
      cases transition with
      | arrive arriving allowed =>
          refine ⟨.step relying happened trivial, kept, ?_⟩
          intro program member
          rcases List.mem_append.mp member with earlier | new
          · exact threads program earlier
          · rw [List.mem_singleton.mp new]
            exact settles.starts _ _ allowed
      | fork thread child next scheduled =>
          refine ⟨.step relying happened trivial, kept, ?_⟩
          intro program member
          rcases List.mem_append.mp member with earlier | new
          · rcases List.mem_or_eq_of_mem_set earlier with old | same
            · exact threads program old
            · rw [same]
              exact threads (.fork child next)
                (List.mem_of_getElem? scheduled)
          · rw [List.mem_singleton.mp new]
            exact settles.children child
      | act thread statement next choice scheduled ready =>
          obtain ⟨lawful, _, later⟩ := threads _
            (List.mem_of_getElem? scheduled) thread choice middle.store ready
            ⟨implies _ _ _ admitted, kept⟩
          refine ⟨.step relying happened ⟨admitted, kept⟩, lawful kept, ?_⟩
          intro program member
          rcases List.mem_or_eq_of_mem_set member with old | same
          · exact threads program old
          · rw [same]
            exact later

end Keeping

end Interleaving
