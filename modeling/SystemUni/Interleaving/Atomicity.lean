import SystemUni.Interleaving.Reactions

/-!
# Programs with one effect

Along every path such a program changes a view of the store in at most one
statement, and what it may still answer after that statement is limited.  Both
are checked along the program text, whatever other threads do in between; a run
carries them over to the thread.
-/

set_option autoImplicit false

namespace Interleaving

variable {S : Signature} {α β ε ν ρ : Type}

/-- The view in question, the statements that are considered and the law they
have to obey anyway. -/
structure Scope (S : Signature) (ν : Type) where
  view : S.State → ν
  condition : Condition S
  law : Law S

/-- Nothing changes the view, and the program can only finish with such an
answer. -/
def Prog.Settles (scope : Scope S ν) (answers : α → Prop) : Prog S α → Prop
  | .ret value => answers value
  | .step statement next => ∀ me choice store,
      statement.ready me choice store = true →
        scope.condition statement.label choice store →
          scope.law me statement.label choice store
              (statement.act me choice store) ∧
            scope.view (statement.act me choice store) = scope.view store ∧
            (next me choice store).Settles scope answers
  | .fork _ next => next.Settles scope answers

/-- A statement either leaves the view alone, or the program settles after
it. -/
def Prog.Atomic (scope : Scope S ν) (answers : α → Prop) : Prog S α → Prop
  | .ret _ => True
  | .step statement next => ∀ me choice store,
      statement.ready me choice store = true →
        scope.condition statement.label choice store →
          scope.law me statement.label choice store
              (statement.act me choice store) ∧
            (scope.view (statement.act me choice store) = scope.view store ∧
                (next me choice store).Atomic scope answers ∨
              (next me choice store).Settles scope answers)
  | .fork _ next => next.Atomic scope answers

/-! ## Rules -/

section Rules

variable {scope : Scope S ν}

theorem Prog.settles_bind (program : Prog S α) (rest : α → Prog S β)
    {answers : β → Prop}
    (first : program.Settles scope fun value =>
      (rest value).Settles scope answers) :
    (program.bind rest).Settles scope answers := by
  induction program with
  | ret value => exact first
  | step statement next inductionHypothesis =>
      intro me choice store ready admitted
      obtain ⟨lawful, same, later⟩ := first me choice store ready admitted
      exact ⟨lawful, same, inductionHypothesis me choice store later⟩
  | fork child next inductionHypothesis => exact inductionHypothesis first

theorem Prog.settles_mono (program : Prog S α) {answers other : α → Prop}
    (first : program.Settles scope answers)
    (implies : ∀ value, answers value → other value) :
    program.Settles scope other := by
  induction program with
  | ret value => exact implies value first
  | step statement next inductionHypothesis =>
      intro me choice store ready admitted
      obtain ⟨lawful, same, later⟩ := first me choice store ready admitted
      exact ⟨lawful, same, inductionHypothesis me choice store later⟩
  | fork child next inductionHypothesis => exact inductionHypothesis first

theorem Prog.Settles.atomic {program : Prog S α} {answers : α → Prop}
    (settles : program.Settles scope answers) (other : α → Prop) :
    program.Atomic scope other := by
  induction program with
  | ret value => trivial
  | step statement next inductionHypothesis =>
      intro me choice store ready admitted
      obtain ⟨lawful, same, later⟩ := settles me choice store ready admitted
      exact ⟨lawful, .inl ⟨same, inductionHypothesis me choice store later⟩⟩
  | fork child next inductionHypothesis => exact inductionHypothesis settles

/-- The effect may come from either part; where it comes from the first, the
second has to settle. -/
theorem Prog.atomic_bind (program : Prog S α) (rest : α → Prog S β)
    {answers : β → Prop}
    (first : program.Atomic scope fun value =>
      (rest value).Settles scope answers)
    (second : ∀ value, (rest value).Atomic scope answers) :
    (program.bind rest).Atomic scope answers := by
  induction program with
  | ret value => exact second value
  | step statement next inductionHypothesis =>
      intro me choice store ready admitted
      obtain ⟨lawful, later⟩ := first me choice store ready admitted
      refine ⟨lawful, ?_⟩
      rcases later with ⟨same, goesOn⟩ | settles
      · exact .inl ⟨same, inductionHypothesis me choice store goesOn⟩
      · exact .inr (Prog.settles_bind _ rest settles)
  | fork child next inductionHypothesis => exact inductionHypothesis first

theorem Prog.atomic_mono (program : Prog S α) {answers other : α → Prop}
    (first : program.Atomic scope answers)
    (implies : ∀ value, answers value → other value) :
    program.Atomic scope other := by
  induction program with
  | ret value => trivial
  | step statement next inductionHypothesis =>
      intro me choice store ready admitted
      obtain ⟨lawful, later⟩ := first me choice store ready admitted
      refine ⟨lawful, ?_⟩
      rcases later with ⟨same, goesOn⟩ | settles
      · exact .inl ⟨same, inductionHypothesis me choice store goesOn⟩
      · exact .inr (Prog.settles_mono _ settles implies)
  | fork child next inductionHypothesis => exact inductionHypothesis first

/-- A program that leaves more than the view alone, as far as the law is
concerned. -/
theorem Prog.atomic_of_keeps {μ : Type} {wide : S.State → μ}
    (still : ∀ me label choice before after, wide after = wide before →
      scope.law me label choice before after ∧
        scope.view after = scope.view before)
    {program : Prog S α} (keeps : program.Keeps wide) (answers : α → Prop) :
    program.Atomic scope answers := by
  induction program with
  | ret value => trivial
  | step statement next inductionHypothesis =>
      intro me choice store ready _
      obtain ⟨kept, later⟩ := keeps me choice store ready
      obtain ⟨lawful, same⟩ := still me statement.label choice store _ kept
      exact ⟨lawful, .inl ⟨same, inductionHypothesis me choice store later⟩⟩
  | fork child next inductionHypothesis => exact inductionHypothesis keeps

/-- The same where nothing changes at all. -/
theorem Prog.settles_of_still {μ : Type} {wide : S.State → μ}
    (still : ∀ me label choice before after, wide after = wide before →
      scope.law me label choice before after ∧
        scope.view after = scope.view before)
    {program : Prog S α} (keeps : program.Keeps wide) :
    program.Settles scope fun _ => True := by
  induction program with
  | ret value => trivial
  | step statement next inductionHypothesis =>
      intro me choice store ready _
      obtain ⟨kept, later⟩ := keeps me choice store ready
      obtain ⟨lawful, same⟩ := still me statement.label choice store _ kept
      exact ⟨lawful, same, inductionHypothesis me choice store later⟩
  | fork child next inductionHypothesis => exact inductionHypothesis keeps

theorem Prog.Settles.follows {program : Prog S α} {answers : α → Prop}
    (settles : program.Settles scope answers)
    (all : ∀ label choice store, scope.condition label choice store) :
    program.Follows scope.law := by
  induction program with
  | ret value => trivial
  | step statement next inductionHypothesis =>
      intro me choice store ready
      obtain ⟨lawful, _, later⟩ :=
        settles me choice store ready (all _ choice store)
      exact ⟨lawful, inductionHypothesis me choice store later⟩
  | fork child next inductionHypothesis => exact inductionHypothesis settles

/-- Where every statement is considered, every statement obeys the law. -/
theorem Prog.Atomic.follows {program : Prog S α} {answers : α → Prop}
    (atomic : program.Atomic scope answers)
    (all : ∀ label choice store, scope.condition label choice store) :
    program.Follows scope.law := by
  induction program with
  | ret value => trivial
  | step statement next inductionHypothesis =>
      intro me choice store ready
      obtain ⟨lawful, later⟩ :=
        atomic me choice store ready (all _ choice store)
      refine ⟨lawful, ?_⟩
      rcases later with ⟨_, goesOn⟩ | settles
      · exact inductionHypothesis me choice store goesOn
      · exact settles.follows all
  | fork child next inductionHypothesis => exact inductionHypothesis atomic

end Rules

/-! ## Programs that may raise an exception -/

section Raising

/-- `Prog.Settles` for a program that either returns or raises. -/
def Settles (scope : Scope S ν) (program : ExceptT ε (Prog S) α)
    (post : α → Prop) (fail : ε → Prop) : Prop :=
  program.run.Settles scope (answersWith post fail)

/-- `Prog.Atomic` for a program that either returns or raises. -/
def Atomic (scope : Scope S ν) (program : ExceptT ε (Prog S) α)
    (post : α → Prop) (fail : ε → Prop) : Prop :=
  program.run.Atomic scope (answersWith post fail)

variable {scope : Scope S ν} {post : α → Prop} {fail : ε → Prop}

theorem settles_pure {value : α} (holds : post value) :
    Settles scope (pure value : ExceptT ε (Prog S) α) post fail := holds

theorem settles_throw {exception : ε} (holds : fail exception) :
    Settles scope (throw exception : ExceptT ε (Prog S) α) post fail := holds

theorem settles_bind {program : ExceptT ε (Prog S) α}
    {rest : α → ExceptT ε (Prog S) β} {last : β → Prop}
    (first : Settles scope program
      (fun value => Settles scope (rest value) last fail) fail) :
    Settles scope (program >>= rest) last fail := by
  refine Prog.settles_bind program.run (ExceptT.bindCont rest)
    (Prog.settles_mono program.run first ?_)
  intro answer holds
  cases answer with
  | ok value => exact holds
  | error exception => exact holds

theorem settles_mono {program : ExceptT ε (Prog S) α} {other : α → Prop}
    {otherFail : ε → Prop} (first : Settles scope program post fail)
    (returned : ∀ value, post value → other value)
    (raised : ∀ exception, fail exception → otherFail exception) :
    Settles scope program other otherFail := by
  refine Prog.settles_mono program.run first ?_
  intro answer holds
  cases answer with
  | ok value => exact returned value holds
  | error exception => exact raised exception holds

theorem settles_tryCatch {program : ExceptT ε (Prog S) α}
    {handler : ε → ExceptT ε (Prog S) α}
    (first : Settles scope program post fun exception =>
      Settles scope (handler exception) post fail) :
    Settles scope (tryCatch program handler) post fail := by
  refine Prog.settles_bind program.run _
    (Prog.settles_mono program.run first ?_)
  intro answer holds
  cases answer with
  | ok value => exact holds
  | error exception => exact holds

theorem settles_still {μ : Type} {wide : S.State → μ}
    (still : ∀ me label choice before after, wide after = wide before →
      scope.law me label choice before after ∧
        scope.view after = scope.view before)
    {program : ExceptT ε (Prog S) α} (leaves : Leaves wide program) :
    Settles scope program (fun _ => True) fun _ => True := by
  refine Prog.settles_mono program.run (Prog.settles_of_still still leaves) ?_
  intro answer _
  cases answer with
  | ok value => trivial
  | error exception => trivial

variable (scope) in
/-- What leaves the view alone settles, where there is no law. -/
theorem settles_of_leaves
    (lawless : ∀ me label choice before after,
      scope.law me label choice before after)
    {program : ExceptT ε (Prog S) α} (leaves : Leaves scope.view program) :
    Settles scope program (fun _ => True) fun _ => True :=
  settles_still (fun _ _ _ _ _ same => ⟨lawless _ _ _ _ _, same⟩) leaves

theorem atomic_pure {value : α} :
    Atomic scope (pure value : ExceptT ε (Prog S) α) post fail := trivial

theorem atomic_throw {exception : ε} :
    Atomic scope (throw exception : ExceptT ε (Prog S) α) post fail := trivial

theorem atomic_bind {program : ExceptT ε (Prog S) α}
    {rest : α → ExceptT ε (Prog S) β} {last : β → Prop}
    (first : Atomic scope program
      (fun value => Settles scope (rest value) last fail) fail)
    (second : ∀ value, Atomic scope (rest value) last fail) :
    Atomic scope (program >>= rest) last fail := by
  refine Prog.atomic_bind program.run (ExceptT.bindCont rest)
    (Prog.atomic_mono program.run first ?_) ?_
  · intro answer holds
    cases answer with
    | ok value => exact holds
    | error exception => exact holds
  · intro answer
    cases answer with
    | ok value => exact second value
    | error exception => trivial

theorem atomic_tryCatch {program : ExceptT ε (Prog S) α}
    {handler : ε → ExceptT ε (Prog S) α}
    (first : Atomic scope program post fun exception =>
      Settles scope (handler exception) post fail)
    (second : ∀ exception, Atomic scope (handler exception) post fail) :
    Atomic scope (tryCatch program handler) post fail := by
  refine Prog.atomic_bind program.run _
    (Prog.atomic_mono program.run first ?_) ?_
  · intro answer holds
    cases answer with
    | ok value => exact holds
    | error exception => exact holds
  · intro answer
    cases answer with
    | ok value => trivial
    | error exception => exact second exception

theorem atomic_of_leaves {μ : Type} {wide : S.State → μ}
    (still : ∀ me label choice before after, wide after = wide before →
      scope.law me label choice before after ∧
        scope.view after = scope.view before)
    {program : ExceptT ε (Prog S) α} (leaves : Leaves wide program) :
    Atomic scope program post fail :=
  Prog.atomic_of_keeps still leaves _

end Raising

/-! ## Runs -/

section Runs

variable {system : System S ρ} {condition : Condition S}

/-- What is left of one thread, as long as its statements under the condition
of the run hand it on. -/
theorem Run.thread_under {first last : Config S ρ}
    (run : Run system condition first last) (good : Prog S ρ → Prop)
    (steps : ∀ statement next me choice store,
      statement.ready me choice store = true →
        condition statement.label choice store → good (.step statement next) →
          good (next me choice store))
    (forks : ∀ child next, good (.fork child next) → good next) {thread : Nat}
    {program : Prog S ρ} (found : first.threads[thread]? = some program)
    (initially : good program) :
    ∃ rest, last.threads[thread]? = some rest ∧ good rest := by
  induction run with
  | refl => exact ⟨program, found, initially⟩
  | @step middle last event before transition admitted inductionHypothesis =>
      obtain ⟨rest, here, holds⟩ := inductionHypothesis
      have bound : thread < middle.threads.length :=
        (List.getElem?_eq_some_iff.mp here).1
      cases transition with
      | arrive arriving allowed =>
          exact ⟨rest, (List.getElem?_append_left bound).trans here, holds⟩
      | fork forking child next scheduled =>
          rw [List.getElem?_append_left (by simpa using bound)]
          by_cases same : forking = thread
          · subst same
            rw [here] at scheduled
            cases Option.some.inj scheduled
            exact ⟨next, List.getElem?_set_self bound, forks child next holds⟩
          · exact ⟨rest, (List.getElem?_set_ne same).trans here, holds⟩
      | act acting statement next choice scheduled ready =>
          by_cases same : acting = thread
          · subst same
            rw [here] at scheduled
            cases Option.some.inj scheduled
            exact ⟨_, List.getElem?_set_self bound,
              steps statement next acting choice _ ready admitted holds⟩
          · exact ⟨rest, (List.getElem?_set_ne same).trans here, holds⟩

variable (scope : Scope S ν) {answers : ρ → Prop} {thread : Nat}
  {program : Prog S ρ} {first config next last : Config S ρ}
  {label : S.Label} {choice : S.Choice}

/-- A thread whose statement has changed the view settles. -/
theorem settled_after (atomic : program.Atomic scope answers)
    (found : first.threads[thread]? = some program)
    (before : Run system scope.condition first config)
    (transition : Transition system config (.act thread label choice) next)
    (admitted : scope.condition label choice config.store)
    (changes : scope.view next.store ≠ scope.view config.store)
    (after : Run system scope.condition next last) :
    ∃ rest, last.threads[thread]? = some rest ∧
      rest.Settles scope answers := by
  obtain ⟨here, scheduledHere, isAtomic⟩ := before.thread_under
    (Prog.Atomic scope answers)
    (fun statement next me choice store ready admitted holds => by
      rcases (holds me choice store ready admitted).2 with ⟨_, goesOn⟩ | settles
      · exact goesOn
      · exact settles.atomic answers)
    (fun _ _ holds => holds) found atomic
  cases transition with
  | act thread statement rest choice scheduled ready =>
      have bound : thread < config.threads.length :=
        (List.getElem?_eq_some_iff.mp scheduled).1
      rw [scheduledHere] at scheduled
      cases Option.some.inj scheduled
      rcases (isAtomic thread choice config.store ready admitted).2 with
        ⟨same, _⟩ | settles
      · exact absurd same changes
      · exact after.thread_under (Prog.Settles scope answers)
          (fun statement next me choice store ready admitted holds =>
            (holds me choice store ready admitted).2.2)
          (fun _ _ holds => holds) (List.getElem?_set_self bound) settles

theorem changes_never (settles : program.Settles scope answers)
    (found : first.threads[thread]? = some program)
    (before : Run system scope.condition first config)
    (transition : Transition system config (.act thread label choice) next)
    (admitted : scope.condition label choice config.store) :
    scope.view next.store = scope.view config.store := by
  obtain ⟨here, scheduledHere, still⟩ := before.thread_under
    (Prog.Settles scope answers)
    (fun statement next me choice store ready admitted holds =>
      (holds me choice store ready admitted).2.2)
    (fun _ _ holds => holds) found settles
  cases transition with
  | act thread statement rest choice scheduled ready =>
      rw [scheduledHere] at scheduled
      cases Option.some.inj scheduled
      exact (still thread choice config.store ready admitted).2.1

theorem obeys_always (settles : program.Settles scope answers)
    (found : first.threads[thread]? = some program)
    (before : Run system scope.condition first config)
    (transition : Transition system config (.act thread label choice) next)
    (admitted : scope.condition label choice config.store) :
    scope.law thread label choice config.store next.store := by
  obtain ⟨here, scheduledHere, still⟩ := before.thread_under
    (Prog.Settles scope answers)
    (fun statement next me choice store ready admitted holds =>
      (holds me choice store ready admitted).2.2)
    (fun _ _ holds => holds) found settles
  cases transition with
  | act thread statement rest choice scheduled ready =>
      rw [scheduledHere] at scheduled
      cases Option.some.inj scheduled
      exact (still thread choice config.store ready admitted).1

theorem changes_once (atomic : program.Atomic scope answers)
    (found : first.threads[thread]? = some program)
    (before : Run system scope.condition first config)
    (transition : Transition system config (.act thread label choice) next)
    (admitted : scope.condition label choice config.store)
    (changes : scope.view next.store ≠ scope.view config.store)
    (after : Run system scope.condition next last)
    {final : Config S ρ} {laterLabel : S.Label} {laterChoice : S.Choice}
    (later : Transition system last (.act thread laterLabel laterChoice) final)
    (laterAdmitted : scope.condition laterLabel laterChoice last.store) :
    scope.view final.store = scope.view last.store := by
  obtain ⟨rest, here, settles⟩ := settled_after scope atomic found before
    transition admitted changes after
  cases later with
  | act thread statement next laterChoice scheduled ready =>
      rw [here] at scheduled
      cases Option.some.inj scheduled
      exact (settles thread laterChoice last.store ready laterAdmitted).2.1

theorem answers_after (atomic : program.Atomic scope answers)
    (found : first.threads[thread]? = some program)
    (before : Run system scope.condition first config)
    (transition : Transition system config (.act thread label choice) next)
    (admitted : scope.condition label choice config.store)
    (changes : scope.view next.store ≠ scope.view config.store)
    (after : Run system scope.condition next last) {answer : ρ}
    (finished : last.threads[thread]? = some (.ret answer)) :
    answers answer := by
  obtain ⟨rest, here, settles⟩ := settled_after scope atomic found before
    transition admitted changes after
  rw [here] at finished
  cases Option.some.inj finished
  exact settles

end Runs

end Interleaving
