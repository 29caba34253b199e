import SystemUni.Interleaving.RelyGuarantee

/-!
# Laws of statements and traces of threads

A law is what a statement does whatever the store it is executed in; it needs
no discipline and can be added to the guarantee of one.  A thread that can only
finish after a certain statement has executed that statement once it has
finished.
-/

set_option autoImplicit false

namespace Interleaving

variable {S : Signature} {ρ α β ε : Type}

abbrev Law (S : Signature) :=
  Nat → S.Label → S.Choice → S.State → S.State → Prop

/-- Every statement the program can execute obeys the law. -/
def Prog.Follows (law : Law S) : Prog S α → Prop
  | .ret _ => True
  | .step statement next => ∀ me choice state,
      statement.ready me choice state = true →
        law me statement.label choice state
            (statement.act me choice state) ∧
          (next me choice state).Follows law
  | .fork _ next => next.Follows law

theorem Prog.follows_bind {law : Law S} (program : Prog S α)
    (rest : α → Prog S β) (first : program.Follows law)
    (second : ∀ value, (rest value).Follows law) :
    (program.bind rest).Follows law := by
  induction program with
  | ret value => exact second value
  | step statement next inductionHypothesis =>
      intro me choice state ready
      obtain ⟨lawful, later⟩ := first me choice state ready
      exact ⟨lawful, inductionHypothesis me choice state later⟩
  | fork child next inductionHypothesis => exact inductionHypothesis first

section Raising

variable {law : Law S}

/-- `Prog.Follows` for a program that either returns or raises. -/
def Lawful (law : Law S) (program : ExceptT ε (Prog S) α) : Prop :=
  program.run.Follows law

theorem lawful_pure {value : α} :
    Lawful law (pure value : ExceptT ε (Prog S) α) := trivial

theorem lawful_throw {exception : ε} :
    Lawful law (throw exception : ExceptT ε (Prog S) α) := trivial

theorem lawful_bind {program : ExceptT ε (Prog S) α}
    {rest : α → ExceptT ε (Prog S) β} (first : Lawful law program)
    (second : ∀ value, Lawful law (rest value)) :
    Lawful law (program >>= rest) := by
  refine Prog.follows_bind program.run (ExceptT.bindCont rest) first ?_
  intro result
  cases result with
  | ok value => exact second value
  | error exception => exact True.intro

theorem lawful_tryCatch {program : ExceptT ε (Prog S) α}
    {handler : ε → ExceptT ε (Prog S) α} (first : Lawful law program)
    (second : ∀ exception, Lawful law (handler exception)) :
    Lawful law (tryCatch program handler) := by
  refine Prog.follows_bind program.run _ first ?_
  intro result
  cases result with
  | ok value => exact True.intro
  | error exception => exact second exception

end Raising

/-! ## A discipline with a law -/

def Discipline.withLaw (D : Discipline S) (law : Law S) : Discipline S where
  inv := D.inv
  rely := D.rely
  guar me label choice before after :=
    D.guar me label choice before after ∧ law me label choice before after
  ok := D.ok
  rely_refl := D.rely_refl
  rely_trans := D.rely_trans
  guar_rely different guaranteed := D.guar_rely different guaranteed.1

theorem safe_withLaw (D : Discipline S) (law : Law S) (me : Nat)
    (program : Prog S α) (follows : program.Follows law)
    (post : α → S.State → Prop) (store : S.State)
    (safe : Safe D me program post store) :
    Safe (D.withLaw law) me program post store := by
  induction program generalizing store with
  | ret value => exact safe
  | step statement next inductionHypothesis =>
      intro choice ready ok
      obtain ⟨lawful, laterLawful⟩ := follows me choice store ready
      obtain ⟨kept, guaranteed, continues⟩ := safe choice ready ok
      refine ⟨kept, ⟨guaranteed, lawful⟩, ?_⟩
      intro later invariant rely
      exact inductionHypothesis me choice store laterLawful later
        (continues later invariant rely)
  | fork child next inductionHypothesis =>
      intro later invariant rely
      exact inductionHypothesis follows later (safe later invariant rely)

/-! ## What a thread has executed -/

/-- The discipline as it is for a thread that never executes such a
statement. -/
def Discipline.avoiding (D : Discipline S) (event : Condition S) :
    Discipline S where
  inv := D.inv
  rely := D.rely
  guar := D.guar
  ok label choice store := D.ok label choice store ∧ ¬ event label choice store
  rely_refl := D.rely_refl
  rely_trans := D.rely_trans
  guar_rely := D.guar_rely

theorem safe_avoiding (D : Discipline S) (event : Condition S) (me : Nat)
    (program : Prog S α) (post : α → S.State → Prop) (store : S.State)
    (safe : Safe D me program post store) :
    Safe (D.avoiding event) me program post store := by
  induction program generalizing store with
  | ret value => exact safe
  | step statement next inductionHypothesis =>
      intro choice ready ok
      obtain ⟨kept, guaranteed, continues⟩ := safe choice ready ok.1
      refine ⟨kept, guaranteed, ?_⟩
      intro later invariant rely
      exact inductionHypothesis me choice store later
        (continues later invariant rely)
  | fork child next inductionHypothesis =>
      intro later invariant rely
      exact inductionHypothesis later (safe later invariant rely)

/-- The thread executes such a statement between the two configurations. -/
def Executes (system : System S ρ) (condition event : Condition S)
    (thread : Nat) (first last : Config S ρ) : Prop :=
  ∃ middle next label choice, Run system condition first middle ∧
    Transition system middle (.act thread label choice) next ∧
    event label choice middle.store ∧ condition label choice middle.store ∧
    Run system condition next last

/-- A thread that is safe as long as it executes no such statement stays so,
or executes one. -/
theorem Obeys.witnessed {system : System S ρ} {D : Discipline S}
    {post : ρ → S.State → Prop} (obeys : Obeys system D post)
    (event : Condition S) {later : ρ → S.State → Prop}
    {first last : Config S ρ} (disciplined : Disciplined D post first)
    (run : Run system D.ok first last) {thread : Nat} {program : Prog S ρ}
    (found : first.threads[thread]? = some program)
    (safe : SafeFrom (D.avoiding event) thread program later first.store) :
    Executes system D.ok event thread first last ∨
      ∃ rest, last.threads[thread]? = some rest ∧
        SafeFrom (D.avoiding event) thread rest later last.store := by
  induction run with
  | refl => exact .inr ⟨program, found, safe⟩
  | @step middle last happening before transition admitted inductionHypothesis =>
      rcases inductionHypothesis with executed | ⟨rest, here, restSafe⟩
      · obtain ⟨atStart, next, label, choice, run, acts, isEvent, ok, after⟩ :=
          executed
        exact .inl ⟨atStart, next, label, choice, run, acts, isEvent, ok,
          .step after transition admitted⟩
      have invariant := (obeys.run disciplined before).inv
      have bound : thread < middle.threads.length :=
        (List.getElem?_eq_some_iff.mp here).1
      have happened := transition
      cases transition with
      | arrive arriving allowed =>
          refine .inr ⟨rest, ?_, restSafe⟩
          rw [List.getElem?_append_left bound]
          exact here
      | fork forking child next scheduled =>
          by_cases same : forking = thread
          · subst same
            rw [here] at scheduled
            cases Option.some.inj scheduled
            refine .inr ⟨next, ?_, restSafe.now invariant⟩
            rw [List.getElem?_append_left (by simpa using bound)]
            simp [bound]
          · refine .inr ⟨rest, ?_, restSafe⟩
            rw [List.getElem?_append_left (by simpa using bound),
              List.getElem?_set_ne same]
            exact here
      | act acting statement next choice scheduled ready =>
          by_cases same : acting = thread
          · subst same
            rw [here] at scheduled
            cases Option.some.inj scheduled
            by_cases isEvent : event statement.label choice middle.store
            · exact .inl ⟨middle, _, statement.label, choice, before, happened,
                isEvent, admitted, .refl _⟩
            · obtain ⟨_, _, continues⟩ :=
                restSafe.now invariant choice ready ⟨admitted, isEvent⟩
              refine .inr ⟨_, ?_, continues⟩
              simp [bound]
          · obtain ⟨_, guaranteed⟩ :=
              (obeys.run disciplined before).guaranteed happened admitted
            refine .inr ⟨rest, ?_,
              restSafe.later (D.guar_rely same guaranteed)⟩
            rw [List.getElem?_set_ne same]
            exact here

end Interleaving
