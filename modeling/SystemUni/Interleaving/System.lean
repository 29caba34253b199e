import SystemUni.Interleaving.Program

/-!
# Threads over one store

A configuration is the shared store and the list of all threads ever started;
a thread's position in the list is its identity.  A thread that never moves
again has crashed, so crashes need no event of their own.
-/

set_option autoImplicit false

namespace Interleaving

/-- `start` says which programs the outside may start in a store, `code` gives
the programs that other programs start by name. -/
structure System (S : Signature) (ρ : Type) where
  start : S.State → Prog S ρ → Prop
  code : S.Child → Prog S ρ

structure Config (S : Signature) (ρ : Type) where
  store : S.State
  threads : List (Prog S ρ)

inductive Event (S : Signature) where
  | arrive
  | fork (thread : Nat) (child : S.Child)
  | act (thread : Nat) (label : S.Label) (choice : S.Choice)

variable {S : Signature} {ρ : Type}

inductive Transition (system : System S ρ) :
    Config S ρ → Event S → Config S ρ → Prop where
  | arrive (config : Config S ρ) (program : Prog S ρ)
      (allowed : system.start config.store program) :
      Transition system config .arrive
        { config with threads := config.threads ++ [program] }
  | fork (config : Config S ρ) (thread : Nat) (child : S.Child)
      (next : Prog S ρ)
      (scheduled : config.threads[thread]? = some (.fork child next)) :
      Transition system config (.fork thread child)
        { config with
          threads := config.threads.set thread next ++ [system.code child] }
  | act (config : Config S ρ) (thread : Nat) (statement : Statement S)
      (next : Nat → S.Choice → S.State → Prog S ρ) (choice : S.Choice)
      (scheduled : config.threads[thread]? = some (.step statement next))
      (ready : statement.ready thread choice config.store = true) :
      Transition system config (.act thread statement.label choice)
        ⟨statement.act thread choice config.store,
          config.threads.set thread (next thread choice config.store)⟩

/-- A condition on executed statements: their label, the choice made and the
store before. -/
abbrev Condition (S : Signature) := S.Label → S.Choice → S.State → Prop

def anything : Condition S := fun _ _ _ => True

def Condition.Admits (condition : Condition S) (event : Event S)
    (store : S.State) : Prop :=
  match event with
  | .act _ label choice => condition label choice store
  | _ => True

/-- Runs all of whose executed statements meet the condition. -/
inductive Run (system : System S ρ) (condition : Condition S) :
    Config S ρ → Config S ρ → Prop where
  | refl (config : Config S ρ) : Run system condition config config
  | step {first middle last : Config S ρ} {event : Event S}
      (before : Run system condition first middle)
      (transition : Transition system middle event last)
      (admitted : condition.Admits event middle.store) :
      Run system condition first last

abbrev Reachable (system : System S ρ) (condition : Condition S)
    (store : S.State) (config : Config S ρ) : Prop :=
  Run system condition ⟨store, []⟩ config

theorem Run.trans {system : System S ρ} {condition : Condition S}
    {first middle last : Config S ρ} (before : Run system condition first middle)
    (after : Run system condition middle last) :
    Run system condition first last := by
  induction after with
  | refl => exact before
  | step _ transition admitted inductionHypothesis =>
      exact .step inductionHypothesis transition admitted

theorem Run.weaken {system : System S ρ} {condition other : Condition S}
    (implies : ∀ label choice store, condition label choice store →
      other label choice store)
    {first last : Config S ρ} (run : Run system condition first last) :
    Run system other first last := by
  induction run with
  | refl => exact .refl _
  | @step middle last event _ transition admitted inductionHypothesis =>
      refine .step inductionHypothesis transition ?_
      cases event with
      | arrive => trivial
      | fork thread child => trivial
      | act thread label choice => exact implies label choice _ admitted

theorem Run.anything {system : System S ρ} {condition : Condition S}
    {first last : Config S ρ} (run : Run system condition first last) :
    Run system anything first last :=
  run.weaken fun _ _ _ _ => trivial

/-- A relation that is reflexive, transitive and contains every step of the
run relates the ends of the run. -/
theorem Run.relates {system : System S ρ} {condition : Condition S}
    (relation : S.State → S.State → Prop)
    (refl : ∀ store, relation store store)
    (trans : ∀ {before middle after}, relation before middle →
      relation middle after → relation before after)
    {first last : Config S ρ} (run : Run system condition first last)
    (each : ∀ {middle next : Config S ρ} {thread : Nat} {label : S.Label}
      {choice : S.Choice}, Run system condition first middle →
      Transition system middle (.act thread label choice) next →
      condition label choice middle.store →
      relation middle.store next.store) :
    relation first.store last.store := by
  induction run with
  | refl => exact refl _
  | @step middle last event before transition admitted inductionHypothesis =>
      refine trans inductionHypothesis ?_
      cases transition with
      | arrive program allowed => exact refl _
      | fork thread child next scheduled => exact refl _
      | act thread statement next choice scheduled ready =>
          exact each before (.act _ thread statement next choice scheduled ready)
            admitted

/-! ## Playing a schedule -/

structure Turn (S : Signature) where
  thread : Nat
  choice : S.Choice

/-- One turn of a schedule: the thread's next statement, if it is ready and
meets the check, or the start of its child. -/
def Config.turn (system : System S ρ)
    (check : S.Label → S.Choice → S.State → Bool)
    (config : Config S ρ) (turn : Turn S) : Option (Config S ρ) :=
  match config.threads[turn.thread]? with
  | some (.step statement next) =>
      if statement.ready turn.thread turn.choice config.store &&
          check statement.label turn.choice config.store then
        some ⟨statement.act turn.thread turn.choice config.store,
          config.threads.set turn.thread
            (next turn.thread turn.choice config.store)⟩
      else none
  | some (.fork child next) =>
      some { config with
        threads := config.threads.set turn.thread next ++ [system.code child] }
  | _ => none

def Config.nextLabel (config : Config S ρ) (thread : Nat) : Option S.Label :=
  match config.threads[thread]? with
  | some (.step statement _) => some statement.label
  | _ => none

theorem Config.turn_transition (system : System S ρ)
    (check : S.Label → S.Choice → S.State → Bool)
    (config next : Config S ρ) (turn : Turn S) {label : S.Label}
    (played : config.turn system check turn = some next)
    (named : config.nextLabel turn.thread = some label) :
    Transition system config (.act turn.thread label turn.choice) next := by
  unfold Config.nextLabel at named
  unfold Config.turn at played
  split at named
  · rename_i statement rest scheduled
    cases Option.some.inj named
    rw [scheduled] at played
    simp only at played
    split at played
    · rename_i checks
      cases Option.some.inj played
      exact .act config turn.thread statement rest turn.choice scheduled
        (Bool.and_eq_true_iff.mp checks).1
    · cases played
  · cases named

def Config.play (system : System S ρ)
    (check : S.Label → S.Choice → S.State → Bool) :
    List (Turn S) → Config S ρ → Option (Config S ρ)
  | [], config => some config
  | turn :: rest, config =>
      match config.turn system check turn with
      | none => none
      | some next => next.play system check rest

theorem Config.turn_run (system : System S ρ)
    (check : S.Label → S.Choice → S.State → Bool)
    (condition : Condition S)
    (sound : ∀ label choice store, check label choice store = true →
      condition label choice store)
    (config next : Config S ρ) (turn : Turn S)
    (played : config.turn system check turn = some next) :
    Run system condition config next := by
  unfold Config.turn at played
  split at played
  · rename_i statement rest scheduled
    split at played
    · rename_i checks
      obtain ⟨ready, checked⟩ := Bool.and_eq_true_iff.mp checks
      cases Option.some.inj played
      exact .step (.refl config)
        (.act config turn.thread statement rest turn.choice scheduled ready)
        (sound _ _ _ checked)
    · cases played
  · rename_i child rest scheduled
    cases Option.some.inj played
    exact .step (.refl config)
      (.fork config turn.thread child rest scheduled) trivial
  · cases played

theorem Config.play_run (system : System S ρ)
    (check : S.Label → S.Choice → S.State → Bool)
    (condition : Condition S)
    (sound : ∀ label choice store, check label choice store = true →
      condition label choice store)
    (turns : List (Turn S)) (config last : Config S ρ)
    (played : config.play system check turns = some last) :
    Run system condition config last := by
  induction turns generalizing config with
  | nil =>
      cases Option.some.inj played
      exact .refl _
  | cons turn rest inductionHypothesis =>
      simp only [Config.play] at played
      cases first : config.turn system check turn with
      | none => simp [first] at played
      | some next =>
          rw [first] at played
          exact (config.turn_run system check condition sound next turn
            first).trans (inductionHypothesis next played)

/-- Where a schedule leads, if it can be played. -/
def Config.played (system : System S ρ)
    (check : S.Label → S.Choice → S.State → Bool) (turns : List (Turn S))
    (config : Config S ρ) : Config S ρ :=
  (config.play system check turns).getD config

theorem Config.played_run (system : System S ρ)
    (check : S.Label → S.Choice → S.State → Bool) (condition : Condition S)
    (sound : ∀ label choice store, check label choice store = true →
      condition label choice store)
    (turns : List (Turn S)) (config : Config S ρ)
    (possible : (config.play system check turns).isSome = true) :
    Run system condition config (config.played system check turns) := by
  obtain ⟨last, plays⟩ := Option.isSome_iff_exists.mp possible
  have ends : config.played system check turns = last := by
    simp [Config.played, plays]
  rw [ends]
  exact config.play_run system check condition sound turns last plays

/-- One turn of a schedule is a transition with the label announced. -/
theorem Config.played_transition (system : System S ρ)
    (check : S.Label → S.Choice → S.State → Bool) (config : Config S ρ)
    (turn : Turn S) {label : S.Label}
    (possible : (config.turn system check turn).isSome = true)
    (named : config.nextLabel turn.thread = some label) :
    Transition system config (.act turn.thread label turn.choice)
      (config.played system check [turn]) := by
  obtain ⟨next, plays⟩ := Option.isSome_iff_exists.mp possible
  have ends : config.played system check [turn] = next := by
    simp [Config.played, Config.play, plays]
  rw [ends]
  exact config.turn_transition system check next turn plays named

/-- Any programs that the outside may start in the initial store can be there
before the first statement is executed. -/
theorem arrivals_run (system : System S ρ) (condition : Condition S)
    (store : S.State) (programs : List (Prog S ρ))
    (allowed : ∀ program ∈ programs, system.start store program) :
    Reachable system condition store ⟨store, programs⟩ := by
  induction programs using List.reverseRecOn with
  | nil => exact .refl _
  | append_singleton programs program inductionHypothesis =>
      have earlier := inductionHypothesis fun member found =>
        allowed member (List.mem_append_left _ found)
      exact .step earlier
        (.arrive ⟨store, programs⟩ program (allowed program (by simp))) trivial

end Interleaving
