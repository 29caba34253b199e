import SystemUni.Interleaving.Laws

/-!
# What surrounds a statement

`Reacts` is checked along the program text, for any interference: whenever one
of certain statements is executed, the program has left a view of the store
alone until then and leaves it alone from then on, and is bound to finish with
an answer of a certain kind.  A run carries this over to the thread that
executed the statement.
-/

set_option autoImplicit false

namespace Interleaving

variable {S : Signature} {α β ε ν ρ : Type}

/-- Whatever the store, the rest of the program never waits, leaves the view
alone and finishes with such an answer. -/
def Prog.Concludes (view : S.State → ν) (answers : α → Prop) :
    Prog S α → Prop
  | .ret value => answers value
  | .step statement next => ∀ me choice store,
      statement.ready me choice store = true ∧
        view (statement.act me choice store) = view store ∧
        (next me choice store).Concludes view answers
  | .fork _ _ => False

/-- The law of executing no such statement. -/
def never (event : Condition S) : Law S :=
  fun _ label choice before _ => ¬ event label choice before

/-- Each such statement leaves the view alone, as does what follows it; after
a statement that does not, there is none. -/
def Prog.Reacts (event : Condition S) (view : S.State → ν)
    (answers : α → Prop) : Prog S α → Prop
  | .ret _ => True
  | .step statement next => ∀ me choice store,
      statement.ready me choice store = true →
        (event statement.label choice store →
          view (statement.act me choice store) = view store ∧
            (next me choice store).Concludes view answers) ∧
        (view (statement.act me choice store) = view store ∧
            (next me choice store).Reacts event view answers ∨
          (next me choice store).Follows (never event))
  | .fork _ next => next.Reacts event view answers

section Rules

variable {event : Condition S} {view : S.State → ν}

theorem concludes_bind (program : Prog S α) (rest : α → Prog S β)
    {answers : β → Prop}
    (first : program.Concludes view fun value =>
      (rest value).Concludes view answers) :
    (program.bind rest).Concludes view answers := by
  induction program with
  | ret value => exact first
  | step statement next inductionHypothesis =>
      intro me choice store
      obtain ⟨ready, same, later⟩ := first me choice store
      exact ⟨ready, same, inductionHypothesis me choice store later⟩
  | fork child next inductionHypothesis => exact first.elim

theorem concludes_mono (program : Prog S α) {answers other : α → Prop}
    (first : program.Concludes view answers)
    (implies : ∀ value, answers value → other value) :
    program.Concludes view other := by
  induction program with
  | ret value => exact implies value first
  | step statement next inductionHypothesis =>
      intro me choice store
      obtain ⟨ready, same, later⟩ := first me choice store
      exact ⟨ready, same, inductionHypothesis me choice store later⟩
  | fork child next inductionHypothesis => exact first.elim

theorem reacts_of_follows {program : Prog S α}
    (follows : program.Follows (never event)) (answers : α → Prop) :
    program.Reacts event view answers := by
  induction program with
  | ret value => trivial
  | step statement next inductionHypothesis =>
      intro me choice store ready
      obtain ⟨avoids, later⟩ := follows me choice store ready
      exact ⟨fun happens => absurd happens avoids, .inr later⟩
  | fork child next inductionHypothesis => exact inductionHypothesis follows

/-- Before the statement: nothing is executed but what leaves the view
alone. -/
theorem reacts_bind_left (program : Prog S α) (rest : α → Prog S β)
    {answers : β → Prop} (keeps : program.Keeps view)
    (follows : program.Follows (never event))
    (second : ∀ value, (rest value).Reacts event view answers) :
    (program.bind rest).Reacts event view answers := by
  induction program with
  | ret value => exact second value
  | step statement next inductionHypothesis =>
      intro me choice store ready
      obtain ⟨same, keepsLater⟩ := keeps me choice store ready
      obtain ⟨avoids, later⟩ := follows me choice store ready
      exact ⟨fun happens => absurd happens avoids,
        .inl ⟨same, inductionHypothesis me choice store keepsLater later⟩⟩
  | fork child next inductionHypothesis =>
      exact inductionHypothesis keeps follows

/-- After the statement: there is no other. -/
theorem reacts_bind_right (program : Prog S α) (rest : α → Prog S β)
    {answers : β → Prop}
    (first : program.Reacts event view fun value =>
      (rest value).Concludes view answers)
    (second : ∀ value, (rest value).Follows (never event)) :
    (program.bind rest).Reacts event view answers := by
  induction program with
  | ret value => exact reacts_of_follows (second value) answers
  | step statement next inductionHypothesis =>
      intro me choice store ready
      obtain ⟨reacts, later⟩ := first me choice store ready
      refine ⟨fun happens => ?_, ?_⟩
      · obtain ⟨same, concludes⟩ := reacts happens
        exact ⟨same, concludes_bind _ rest concludes⟩
      · rcases later with ⟨same, goesOn⟩ | follows
        · exact .inl ⟨same, inductionHypothesis me choice store goesOn⟩
        · exact .inr (Prog.follows_bind _ rest follows second)
  | fork child next inductionHypothesis => exact inductionHypothesis first

theorem reacts_mono (program : Prog S α) {answers other : α → Prop}
    (first : program.Reacts event view answers)
    (implies : ∀ value, answers value → other value) :
    program.Reacts event view other := by
  induction program with
  | ret value => trivial
  | step statement next inductionHypothesis =>
      intro me choice store ready
      obtain ⟨reacts, later⟩ := first me choice store ready
      refine ⟨fun happens => ?_, ?_⟩
      · obtain ⟨same, concludes⟩ := reacts happens
        exact ⟨same, concludes_mono _ concludes implies⟩
      · rcases later with ⟨same, goesOn⟩ | follows
        · exact .inl ⟨same, inductionHypothesis me choice store goesOn⟩
        · exact .inr follows
  | fork child next inductionHypothesis => exact inductionHypothesis first

end Rules

/-! ## Programs that may raise an exception -/

section Raising

variable {event : Condition S} {view : S.State → ν}

/-- A returned value or an exception of that kind. -/
def answersWith (post : α → Prop) (fail : ε → Prop) : Except ε α → Prop
  | .ok value => post value
  | .error exception => fail exception

variable (view) in
/-- `Prog.Concludes` for a program that either returns or raises. -/
def Concludes (program : ExceptT ε (Prog S) α) (post : α → Prop)
    (fail : ε → Prop) : Prop :=
  program.run.Concludes view (answersWith post fail)

variable (event view) in
/-- `Prog.Reacts` for a program that either returns or raises. -/
def Reacts (program : ExceptT ε (Prog S) α) (post : α → Prop)
    (fail : ε → Prop) : Prop :=
  program.run.Reacts event view (answersWith post fail)

variable {post : α → Prop} {fail : ε → Prop}

theorem concluding_throw {exception : ε} (holds : fail exception) :
    Concludes view (throw exception : ExceptT ε (Prog S) α) post fail := holds

theorem concluding_bind {program : ExceptT ε (Prog S) α}
    {rest : α → ExceptT ε (Prog S) β} {last : β → Prop}
    (first : Concludes view program
      (fun value => Concludes view (rest value) last fail) fail) :
    Concludes view (program >>= rest) last fail := by
  refine concludes_bind program.run (ExceptT.bindCont rest)
    (concludes_mono program.run first ?_)
  intro answer holds
  cases answer with
  | ok value => exact holds
  | error exception => exact holds

theorem reacting_of_lawful {program : ExceptT ε (Prog S) α}
    (lawful : Lawful (never event) program) :
    Reacts event view program post fail :=
  reacts_of_follows lawful _

theorem reacting_bind_left {program : ExceptT ε (Prog S) α}
    {rest : α → ExceptT ε (Prog S) β} {last : β → Prop}
    (leaves : Leaves view program) (lawful : Lawful (never event) program)
    (second : ∀ value, Reacts event view (rest value) last fail) :
    Reacts event view (program >>= rest) last fail := by
  refine reacts_bind_left program.run (ExceptT.bindCont rest) leaves lawful ?_
  intro answer
  cases answer with
  | ok value => exact second value
  | error exception => trivial

theorem reacting_bind_right {program : ExceptT ε (Prog S) α}
    {rest : α → ExceptT ε (Prog S) β} {last : β → Prop}
    (first : Reacts event view program
      (fun value => Concludes view (rest value) last fail) fail)
    (second : ∀ value, Lawful (never event) (rest value)) :
    Reacts event view (program >>= rest) last fail := by
  refine reacts_bind_right program.run (ExceptT.bindCont rest)
    (reacts_mono program.run first ?_) ?_
  · intro answer holds
    cases answer with
    | ok value => exact holds
    | error exception => exact holds
  · intro answer
    cases answer with
    | ok value => exact second value
    | error exception => trivial

theorem reacting_tryCatch {program : ExceptT ε (Prog S) α}
    {handler : ε → ExceptT ε (Prog S) α}
    (first : Reacts event view program post fun exception =>
      Concludes view (handler exception) post fail)
    (second : ∀ exception, Lawful (never event) (handler exception)) :
    Reacts event view (tryCatch program handler) post fail := by
  refine reacts_bind_right program.run _ (reacts_mono program.run first ?_) ?_
  · intro answer holds
    cases answer with
    | ok value => exact holds
    | error exception => exact holds
  · intro answer
    cases answer with
    | ok value => trivial
    | error exception => exact second exception

theorem reacting_mono {program : ExceptT ε (Prog S) α} {other : α → Prop}
    {otherFail : ε → Prop} (first : Reacts event view program post fail)
    (returned : ∀ value, post value → other value)
    (raised : ∀ exception, fail exception → otherFail exception) :
    Reacts event view program other otherFail := by
  refine reacts_mono program.run first ?_
  intro answer holds
  cases answer with
  | ok value => exact returned value holds
  | error exception => exact raised exception holds

end Raising

/-! ## Runs -/

section Runs

variable {system : System S ρ} {condition event : Condition S}
  {view : S.State → ν} {answers : ρ → Prop}

/-- All programs that the system can start react so. -/
structure System.Reacts (system : System S ρ) (event : Condition S)
    (view : S.State → ν) (answers : ρ → Prop) : Prop where
  starts : ∀ store program, system.start store program →
    program.Reacts event view answers
  children : ∀ child, (system.code child).Reacts event view answers

/-- A property of programs that every statement hands on to what follows it
holds of all threads. -/
theorem Run.threads {first last : Config S ρ}
    (run : Run system condition first last) (good : Prog S ρ → Prop)
    (initially : ∀ program ∈ first.threads, good program)
    (starts : ∀ store program, system.start store program → good program)
    (children : ∀ child, good (system.code child))
    (steps : ∀ statement next me choice store,
      statement.ready me choice store = true → good (.step statement next) →
        good (next me choice store))
    (forks : ∀ child next, good (.fork child next) → good next) :
    ∀ program ∈ last.threads, good program := by
  induction run with
  | refl => exact initially
  | @step middle last event before transition _ inductionHypothesis =>
      have holds := inductionHypothesis
      intro program member
      cases transition with
      | arrive arriving allowed =>
          rcases List.mem_append.mp member with earlier | new
          · exact holds program earlier
          · rw [List.mem_singleton.mp new]
            exact starts _ _ allowed
      | fork thread child next scheduled =>
          rcases List.mem_append.mp member with earlier | new
          · rcases List.mem_or_eq_of_mem_set earlier with old | same
            · exact holds program old
            · rw [same]
              exact forks child next (holds _ (List.mem_of_getElem? scheduled))
          · rw [List.mem_singleton.mp new]
            exact children child
      | act thread statement next choice scheduled ready =>
          rcases List.mem_or_eq_of_mem_set member with old | same
          · exact holds program old
          · rw [same]
            exact steps statement next thread choice _ ready
              (holds _ (List.mem_of_getElem? scheduled))

/-- What is left of one thread, as long as its statements hand it on. -/
theorem Run.thread {first last : Config S ρ}
    (run : Run system condition first last) (good : Prog S ρ → Prop)
    (steps : ∀ statement next me choice store,
      statement.ready me choice store = true → good (.step statement next) →
        good (next me choice store))
    (forks : ∀ child next, good (.fork child next) → good next) {thread : Nat}
    {program : Prog S ρ} (found : first.threads[thread]? = some program)
    (initially : good program) :
    ∃ rest, last.threads[thread]? = some rest ∧ good rest := by
  induction run with
  | refl => exact ⟨program, found, initially⟩
  | @step middle last event before transition _ inductionHypothesis =>
      obtain ⟨rest, here, holds⟩ := inductionHypothesis
      have bound : thread < middle.threads.length :=
        (List.getElem?_eq_some_iff.mp here).1
      cases transition with
      | arrive arriving allowed =>
          exact ⟨rest, (List.getElem?_append_left bound).trans here, holds⟩
      | fork forking child next scheduled =>
          rw [List.getElem?_append_left (by simpa using bound)]
          by_cases same : forking = thread
          · subst same
            rw [here] at scheduled
            cases Option.some.inj scheduled
            exact ⟨next, List.getElem?_set_self bound, forks child next holds⟩
          · exact ⟨rest, (List.getElem?_set_ne same).trans here, holds⟩
      | act acting statement next choice scheduled ready =>
          by_cases same : acting = thread
          · subst same
            rw [here] at scheduled
            cases Option.some.inj scheduled
            exact ⟨_, List.getElem?_set_self bound,
              steps statement next acting choice _ ready holds⟩
          · exact ⟨rest, (List.getElem?_set_ne same).trans here, holds⟩

theorem System.Reacts.threads (reacts : system.Reacts event view answers)
    {store : S.State} {config : Config S ρ}
    (reachable : Reachable system condition store config) :
    ∀ program ∈ config.threads, program.Reacts event view answers := by
  refine reachable.threads _ (List.forall_mem_nil _) reacts.starts
    reacts.children ?_ fun _ _ holds => holds
  intro statement next me choice store ready holds
  rcases (holds me choice store ready).2 with ⟨_, goesOn⟩ | follows
  · exact goesOn
  · exact reacts_of_follows follows answers

/-- A thread that executes such a statement has left the view alone until
then. -/
theorem System.Reacts.untouched (reacts : system.Reacts event view answers)
    {store : S.State} {first second config next : Config S ρ} {thread : Nat}
    {earlier label : S.Label} {earlierChoice choice : S.Choice}
    (reachable : Reachable system condition store first)
    (before : Transition system first (.act thread earlier earlierChoice)
      second)
    (run : Run system condition second config)
    (transition : Transition system config (.act thread label choice) next)
    (happens : event label choice config.store) :
    view second.store = view first.store := by
  cases before with
  | act thread statement rest earlierChoice scheduled ready =>
      have bound : thread < first.threads.length :=
        (List.getElem?_eq_some_iff.mp scheduled).1
      have here := reacts.threads reachable _ (List.mem_of_getElem? scheduled)
      rcases (here thread earlierChoice first.store ready).2 with
        ⟨same, _⟩ | follows
      · exact same
      · -- Nothing that is left of the thread can be the statement.
        obtain ⟨left, found, avoids⟩ := run.thread
          (Prog.Follows (never event))
          (fun statement next me choice store ready holds =>
            (holds me choice store ready).2)
          (fun _ _ holds => holds) (List.getElem?_set_self bound) follows
        cases transition with
        | act thread statement next choice scheduled ready =>
            rw [found] at scheduled
            cases Option.some.inj scheduled
            exact absurd happens (avoids thread choice config.store ready).1

/-- It leaves the view alone in it and from then on, and only concludes. -/
theorem System.Reacts.concludes (reacts : system.Reacts event view answers)
    {store : S.State} {config next last : Config S ρ}
    (reachable : Reachable system condition store config) {thread : Nat}
    {label : S.Label} {choice : S.Choice}
    (transition : Transition system config (.act thread label choice) next)
    (happens : event label choice config.store)
    (run : Run system condition next last) :
    view next.store = view config.store ∧
      ∃ rest, last.threads[thread]? = some rest ∧
        rest.Concludes view answers := by
  cases transition with
  | act thread statement rest choice scheduled ready =>
      have bound : thread < config.threads.length :=
        (List.getElem?_eq_some_iff.mp scheduled).1
      have here := reacts.threads reachable _ (List.mem_of_getElem? scheduled)
      obtain ⟨same, concludes⟩ :=
        (here thread choice config.store ready).1 happens
      refine ⟨same, run.thread (Prog.Concludes view answers) ?_
        (fun _ _ impossible => impossible.elim)
        (List.getElem?_set_self bound) concludes⟩
      exact fun statement next me choice store _ holds =>
        (holds me choice store).2.2

end Runs

end Interleaving
