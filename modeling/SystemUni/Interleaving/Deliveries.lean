import SystemUni.Interleaving.Atomicity

/-!
# Programs that deliver

A program delivers when it cannot finish with certain answers unless one of its
statements has had a certain effect.  This is checked along the program text;
in a run it says that a thread with such an answer has executed such a
statement.
-/

set_option autoImplicit false

namespace Interleaving

variable {S : Signature} {α β ε ν ρ : Type}

/-- As long as no statement makes the delivery, only these answers are
possible. -/
def Prog.Delivers (condition : Condition S) (delivery : Law S)
    (answers : α → Prop) : Prog S α → Prop
  | .ret value => answers value
  | .step statement next => ∀ me choice store,
      statement.ready me choice store = true →
        condition statement.label choice store →
          delivery me statement.label choice store
              (statement.act me choice store) ∨
            (next me choice store).Delivers condition delivery answers
  | .fork _ next => next.Delivers condition delivery answers

/-! ## Rules -/

section Rules

variable {condition : Condition S} {delivery : Law S}

theorem Prog.delivers_bind (program : Prog S α) (rest : α → Prog S β)
    {answers : β → Prop}
    (first : program.Delivers condition delivery fun value =>
      (rest value).Delivers condition delivery answers) :
    (program.bind rest).Delivers condition delivery answers := by
  induction program with
  | ret value => exact first
  | step statement next inductionHypothesis =>
      intro me choice store ready admitted
      rcases first me choice store ready admitted with delivered | later
      · exact .inl delivered
      · exact .inr (inductionHypothesis me choice store later)
  | fork child next inductionHypothesis => exact inductionHypothesis first

theorem Prog.delivers_mono (program : Prog S α) {answers other : α → Prop}
    (first : program.Delivers condition delivery answers)
    (implies : ∀ value, answers value → other value) :
    program.Delivers condition delivery other := by
  induction program with
  | ret value => exact implies value first
  | step statement next inductionHypothesis =>
      intro me choice store ready admitted
      rcases first me choice store ready admitted with delivered | later
      · exact .inl delivered
      · exact .inr (inductionHypothesis me choice store later)
  | fork child next inductionHypothesis => exact inductionHypothesis first

/-- Nothing has to be delivered where every answer is possible. -/
theorem Prog.delivers_any (program : Prog S α) {answers : α → Prop}
    (all : ∀ value, answers value) :
    program.Delivers condition delivery answers := by
  induction program with
  | ret value => exact all value
  | step statement next inductionHypothesis =>
      intro me choice store _ _
      exact .inr (inductionHypothesis me choice store)
  | fork child next inductionHypothesis => exact inductionHypothesis

/-- What a program that settles can answer. -/
theorem Prog.Settles.delivers {scope : Scope S ν} {program : Prog S α}
    {answers : α → Prop} (settles : program.Settles scope answers)
    (delivery : Law S) :
    program.Delivers scope.condition delivery answers := by
  induction program with
  | ret value => exact settles
  | step statement next inductionHypothesis =>
      intro me choice store ready admitted
      obtain ⟨_, _, later⟩ := settles me choice store ready admitted
      exact .inr (inductionHypothesis me choice store later)
  | fork child next inductionHypothesis => exact inductionHypothesis settles

end Rules

/-! ## Programs that may raise an exception -/

section Raising

/-- `Prog.Delivers` for a program that either returns or raises. -/
def Delivers (condition : Condition S) (delivery : Law S)
    (program : ExceptT ε (Prog S) α) (post : α → Prop) (fail : ε → Prop) :
    Prop :=
  program.run.Delivers condition delivery (answersWith post fail)

variable {condition : Condition S} {delivery : Law S} {post : α → Prop}
  {fail : ε → Prop}

theorem delivers_throw {exception : ε} (holds : fail exception) :
    Delivers condition delivery (throw exception : ExceptT ε (Prog S) α) post
      fail := holds

theorem delivers_bind {program : ExceptT ε (Prog S) α}
    {rest : α → ExceptT ε (Prog S) β} {last : β → Prop}
    (first : Delivers condition delivery program
      (fun value => Delivers condition delivery (rest value) last fail) fail) :
    Delivers condition delivery (program >>= rest) last fail := by
  refine Prog.delivers_bind program.run (ExceptT.bindCont rest)
    (Prog.delivers_mono program.run first ?_)
  intro answer holds
  cases answer with
  | ok value => exact holds
  | error exception => exact holds

theorem delivers_tryCatch {program : ExceptT ε (Prog S) α}
    {handler : ε → ExceptT ε (Prog S) α}
    (first : Delivers condition delivery program post fun exception =>
      Delivers condition delivery (handler exception) post fail) :
    Delivers condition delivery (tryCatch program handler) post fail := by
  refine Prog.delivers_bind program.run _
    (Prog.delivers_mono program.run first ?_)
  intro answer holds
  cases answer with
  | ok value => exact holds
  | error exception => exact holds

theorem delivers_mono {program : ExceptT ε (Prog S) α} {other : α → Prop}
    {otherFail : ε → Prop}
    (first : Delivers condition delivery program post fail)
    (returned : ∀ value, post value → other value)
    (raised : ∀ exception, fail exception → otherFail exception) :
    Delivers condition delivery program other otherFail := by
  refine Prog.delivers_mono program.run first ?_
  intro answer holds
  cases answer with
  | ok value => exact returned value holds
  | error exception => exact raised exception holds

theorem delivers_any {program : ExceptT ε (Prog S) α}
    (returned : ∀ value, post value) (raised : ∀ exception, fail exception) :
    Delivers condition delivery program post fail := by
  refine Prog.delivers_any program.run ?_
  intro answer
  cases answer with
  | ok value => exact returned value
  | error exception => exact raised exception

end Raising

/-! ## Runs -/

/-- Between the two configurations the thread makes the delivery. -/
def Made (system : System S ρ) (condition : Condition S) (delivery : Law S)
    (thread : Nat) (first last : Config S ρ) : Prop :=
  ∃ config next label choice, Run system condition first config ∧
    Transition system config (.act thread label choice) next ∧
    condition label choice config.store ∧
    delivery thread label choice config.store next.store ∧
    Run system condition next last

section Runs

variable {system : System S ρ} {condition : Condition S} {delivery : Law S}
  {thread : Nat} {first last : Config S ρ} {program : Prog S ρ}
  {answers : ρ → Prop}

/-- Either the thread has made the delivery or what is left of it delivers. -/
theorem Run.made_or_delivers (run : Run system condition first last)
    (found : first.threads[thread]? = some program)
    (delivers : program.Delivers condition delivery answers) :
    Made system condition delivery thread first last ∨
      ∃ rest, last.threads[thread]? = some rest ∧
        rest.Delivers condition delivery answers := by
  induction run with
  | refl => exact .inr ⟨program, found, delivers⟩
  | @step middle last event before transition admitted inductionHypothesis =>
      rcases inductionHypothesis with made | ⟨rest, here, holds⟩
      · obtain ⟨config, next, label, choice, run, acts, held, made, after⟩ :=
          made
        exact .inl ⟨config, next, label, choice, run, acts, held, made,
          .step after transition admitted⟩
      have bound : thread < middle.threads.length :=
        (List.getElem?_eq_some_iff.mp here).1
      have happened := transition
      cases transition with
      | arrive arriving allowed =>
          exact .inr ⟨rest, (List.getElem?_append_left bound).trans here,
            holds⟩
      | fork forking child next scheduled =>
          rw [List.getElem?_append_left (by simpa using bound)]
          by_cases same : forking = thread
          · subst same
            rw [here] at scheduled
            cases Option.some.inj scheduled
            exact .inr ⟨next, List.getElem?_set_self bound, holds⟩
          · exact .inr ⟨rest, (List.getElem?_set_ne same).trans here, holds⟩
      | act acting statement next choice scheduled ready =>
          by_cases same : acting = thread
          · subst same
            rw [here] at scheduled
            cases Option.some.inj scheduled
            rcases holds acting choice middle.store ready admitted with
              delivered | later
            · exact .inl ⟨middle, _, statement.label, choice, before, happened,
                admitted, delivered, .refl _⟩
            · exact .inr ⟨_, List.getElem?_set_self bound, later⟩
          · exact .inr ⟨rest, (List.getElem?_set_ne same).trans here, holds⟩

theorem Run.made (run : Run system condition first last)
    (found : first.threads[thread]? = some program)
    (delivers : program.Delivers condition delivery answers) {answer : ρ}
    (finished : last.threads[thread]? = some (.ret answer))
    (excluded : ¬ answers answer) :
    Made system condition delivery thread first last := by
  rcases run.made_or_delivers found delivers with made | ⟨rest, here, holds⟩
  · exact made
  · rw [here] at finished
    cases Option.some.inj finished
    exact absurd holds excluded

end Runs

end Interleaving
