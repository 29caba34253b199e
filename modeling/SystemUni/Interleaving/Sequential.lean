import SystemUni.Interleaving.Alone
import SystemUni.Interleaving.RelyGuarantee

/-!
# Sequential use

Each program starts when the one before has finished.  `Ensures` says what
holds when a program, executed alone, has finished, whatever the environment
chose within the condition; it is partial correctness, along the program text.
-/

set_option autoImplicit false

namespace Interleaving

variable {S : Signature} {α β ε ρ : Type}

/-! ## Executions of one program -/

/-- The program leads alone from one store to the other; each of its statements
meets the condition.  Children are not executed. -/
inductive Evaluates (condition : Condition S) (me : Nat) :
    Prog S α → S.State → α → S.State → Prop where
  | ret (value : α) (store : S.State) :
      Evaluates condition me (.ret value) store value store
  | step (statement : Statement S)
      (next : Nat → S.Choice → S.State → Prog S α) (choice : S.Choice)
      (store : S.State) {value : α} {last : S.State}
      (ready : statement.ready me choice store = true)
      (admitted : condition statement.label choice store)
      (rest : Evaluates condition me (next me choice store)
        (statement.act me choice store) value last) :
      Evaluates condition me (.step statement next) store value last
  | fork (child : S.Child) (next : Prog S α) {value : α}
      {store last : S.State}
      (rest : Evaluates condition me next store value last) :
      Evaluates condition me (.fork child next) store value last

def Ensures (condition : Condition S) (me : Nat) :
    Prog S α → (α → S.State → Prop) → S.State → Prop
  | .ret value, post, store => post value store
  | .step statement next, post, store => ∀ choice,
      statement.ready me choice store = true →
      condition statement.label choice store →
      Ensures condition me (next me choice store) post
        (statement.act me choice store)
  | .fork _ next, post, store => Ensures condition me next post store

section Rules

variable {condition : Condition S} {me : Nat}

theorem Evaluates.ensured {program : Prog S α} {post : α → S.State → Prop}
    {store last : S.State} {value : α}
    (runs : Evaluates condition me program store value last)
    (ensures : Ensures condition me program post store) : post value last := by
  induction runs with
  | ret value store => exact ensures
  | step statement next choice store ready admitted _ inductionHypothesis =>
      exact inductionHypothesis (ensures choice ready admitted)
  | fork child next _ inductionHypothesis => exact inductionHypothesis ensures

theorem Evaluates.weaken {other : Condition S}
    (implies : ∀ label choice store, condition label choice store →
      other label choice store)
    {program : Prog S α} {store last : S.State} {value : α}
    (runs : Evaluates condition me program store value last) :
    Evaluates other me program store value last := by
  induction runs with
  | ret value store => exact .ret value store
  | step statement next choice store ready admitted _ inductionHypothesis =>
      exact .step statement next choice store ready
        (implies _ choice store admitted) inductionHypothesis
  | fork child next _ inductionHypothesis =>
      exact .fork child next inductionHypothesis

/-- Running alone on a stream of choices is such an execution. -/
theorem evaluates_of_solo (program : Prog S α) (choices : Nat → S.Choice)
    (meets : ∀ label index store, condition label (choices index) store)
    {store last : S.State} {value : α} {left : Nat → S.Choice}
    (runs : program.solo me choices store = some (value, last, left)) :
    Evaluates condition me program store value last := by
  induction program generalizing store choices with
  | ret value =>
      cases runs
      exact .ret _ _
  | step statement next inductionHypothesis =>
      simp only [Prog.solo] at runs
      split at runs
      · rename_i ready
        exact .step statement next (choices 0) store ready
          (meets statement.label 0 store)
          (inductionHypothesis me (choices 0) store _
            (fun label index => meets label (index + 1)) runs)
      · cases runs
  | fork child next inductionHypothesis =>
      exact .fork child next (inductionHypothesis choices meets runs)

/-- The store in which a program ends that runs alone on these choices. -/
def Prog.settled (me : Nat) (program : Prog S α) (choices : Nat → S.Choice)
    (store : S.State) : S.State :=
  ((program.solo me choices store).map fun outcome => outcome.2.1).getD store

variable (condition me) in
theorem evaluates_settled (program : Prog S α) (choices : Nat → S.Choice)
    (store : S.State)
    (meets : ∀ label index store, condition label (choices index) store)
    (returns : (program.solo me choices store).isSome = true) :
    ∃ answer, Evaluates condition me program store answer
      (program.settled me choices store) := by
  obtain ⟨⟨answer, last, left⟩, runs⟩ := Option.isSome_iff_exists.mp returns
  have isLast : program.settled me choices store = last := by
    simp [Prog.settled, runs]
  rw [isLast]
  exact ⟨answer, evaluates_of_solo program choices meets runs⟩

theorem ensures_bind (program : Prog S α) (rest : α → Prog S β)
    (post : β → S.State → Prop) (store : S.State)
    (ensures : Ensures condition me program
      (fun value later => Ensures condition me (rest value) post later)
      store) :
    Ensures condition me (program.bind rest) post store := by
  induction program generalizing store with
  | ret value => exact ensures
  | step statement next inductionHypothesis =>
      intro choice ready admitted
      exact inductionHypothesis me choice store _
        (ensures choice ready admitted)
  | fork child next inductionHypothesis =>
      exact inductionHypothesis store ensures

theorem ensures_mono (program : Prog S α) {post other : α → S.State → Prop}
    (store : S.State) (ensures : Ensures condition me program post store)
    (implies : ∀ value later, post value later → other value later) :
    Ensures condition me program other store := by
  induction program generalizing store with
  | ret value => exact implies value store ensures
  | step statement next inductionHypothesis =>
      intro choice ready admitted
      exact inductionHypothesis me choice store _
        (ensures choice ready admitted)
  | fork child next inductionHypothesis =>
      exact inductionHypothesis store ensures

theorem ensures_and (program : Prog S α) {post other : α → S.State → Prop}
    (store : S.State) (ensures : Ensures condition me program post store)
    (ensuresToo : Ensures condition me program other store) :
    Ensures condition me program
      (fun value later => post value later ∧ other value later) store := by
  induction program generalizing store with
  | ret value => exact ⟨ensures, ensuresToo⟩
  | step statement next inductionHypothesis =>
      intro choice ready admitted
      exact inductionHypothesis me choice store _
        (ensures choice ready admitted) (ensuresToo choice ready admitted)
  | fork child next inductionHypothesis =>
      exact inductionHypothesis store ensures ensuresToo

theorem ensures_of_keeps {ν : Type} {view : S.State → ν} (program : Prog S α)
    (keeps : program.Keeps view) (store : S.State) :
    Ensures condition me program (fun _ later => view later = view store)
      store := by
  suffices from_ : ∀ start : S.State, view start = view store →
      Ensures condition me program (fun _ later => view later = view store)
        start from from_ store rfl
  intro start same
  induction program generalizing start with
  | ret value => exact same
  | step statement next inductionHypothesis =>
      intro choice ready _
      obtain ⟨kept, later⟩ := keeps me choice start ready
      exact inductionHypothesis me choice start later _ (kept.trans same)
  | fork child next inductionHypothesis =>
      exact inductionHypothesis keeps start same

end Rules

/-! ## Total correctness is partial correctness and an execution -/

section Alone

variable {allowed : S.Choice → Prop} {me : Nat}

/-- The allowed choices, as a condition. -/
def Condition.allowing (allowed : S.Choice → Prop) : Condition S :=
  fun _ choice _ => allowed choice

theorem alone_ensures (program : Prog S α) {post : α → S.State → Prop}
    (store : S.State) (alone : Alone allowed me program post store) :
    Ensures (Condition.allowing allowed) me program post store := by
  induction program generalizing store with
  | ret value => exact alone
  | step statement next inductionHypothesis =>
      intro choice _ allows
      exact inductionHypothesis me choice store _ (alone choice allows).2
  | fork child next inductionHypothesis =>
      exact inductionHypothesis store alone

theorem alone_evaluates (program : Prog S α) {post : α → S.State → Prop}
    (store : S.State) (alone : Alone allowed me program post store)
    (choice : S.Choice) (allows : allowed choice) :
    ∃ value last, Evaluates (Condition.allowing allowed) me program store value
      last ∧ post value last := by
  obtain ⟨value, last, left, runs, holds⟩ :=
    alone_solo program store alone (fun _ => choice) fun _ => allows
  exact ⟨value, last, evaluates_of_solo program (fun _ => choice)
    (fun _ _ _ => allows) runs, holds⟩

end Alone

/-! ## Programs that may raise an exception -/

section Raising

/-- `Ensures` for a program that either returns or raises. -/
def Yields (condition : Condition S) (me : Nat)
    (program : ExceptT ε (Prog S) α) (post : α → S.State → Prop)
    (fail : ε → S.State → Prop) (store : S.State) : Prop :=
  Ensures condition me program.run (outcome post fail) store

variable {condition : Condition S} {me : Nat}
  {post : α → S.State → Prop} {fail : ε → S.State → Prop} {store : S.State}

theorem yields_pure {value : α} (holds : post value store) :
    Yields condition me (pure value : ExceptT ε (Prog S) α) post fail store :=
  holds

theorem yields_throw {exception : ε} (holds : fail exception store) :
    Yields condition me (throw exception : ExceptT ε (Prog S) α) post fail
      store := holds

theorem yields_bind {program : ExceptT ε (Prog S) α}
    {rest : α → ExceptT ε (Prog S) β} {last : β → S.State → Prop}
    (first : Yields condition me program
      (fun value later => Yields condition me (rest value) last fail later)
      fail store) :
    Yields condition me (program >>= rest) last fail store := by
  refine ensures_bind program.run (ExceptT.bindCont rest) _ store
    (ensures_mono program.run store first ?_)
  intro result later holds
  cases result with
  | ok value => exact holds
  | error exception => exact holds

theorem yields_tryCatch {program : ExceptT ε (Prog S) α}
    {handler : ε → ExceptT ε (Prog S) α}
    (first : Yields condition me program post
      (fun exception later =>
        Yields condition me (handler exception) post fail later) store) :
    Yields condition me (tryCatch program handler) post fail store := by
  refine ensures_bind program.run _ _ store
    (ensures_mono program.run store first ?_)
  intro result later holds
  cases result with
  | ok value => exact holds
  | error exception => exact holds

theorem yields_mono {program : ExceptT ε (Prog S) α}
    {other : α → S.State → Prop} {otherFail : ε → S.State → Prop}
    (first : Yields condition me program post fail store)
    (returned : ∀ value later, post value later → other value later)
    (raised : ∀ exception later, fail exception later →
      otherFail exception later) :
    Yields condition me program other otherFail store := by
  refine ensures_mono program.run store first ?_
  intro result later holds
  cases result with
  | ok value => exact returned value later holds
  | error exception => exact raised exception later holds

theorem yields_and {program : ExceptT ε (Prog S) α}
    {other : α → S.State → Prop} {otherFail : ε → S.State → Prop}
    (first : Yields condition me program post fail store)
    (second : Yields condition me program other otherFail store) :
    Yields condition me program
      (fun value later => post value later ∧ other value later)
      (fun exception later => fail exception later ∧
        otherFail exception later) store := by
  refine ensures_mono program.run store
    (ensures_and program.run store first second) ?_
  rintro result later ⟨holds, holdsToo⟩
  cases result with
  | ok value => exact ⟨holds, holdsToo⟩
  | error exception => exact ⟨holds, holdsToo⟩

theorem yields_of_leaves {ν : Type} {view : S.State → ν}
    {program : ExceptT ε (Prog S) α} (leaves : Leaves view program) :
    Yields condition me program (fun _ later => view later = view store)
      (fun _ later => view later = view store) store := by
  refine ensures_mono program.run store
    (ensures_of_keeps program.run leaves store) ?_
  intro result later same
  cases result with
  | ok value => exact same
  | error exception => exact same

section Finishing

variable {allowed : S.Choice → Prop} {program : ExceptT ε (Prog S) α}

theorem yields_of_finishes
    (finishes : Finishes allowed me program post fail store) :
    Yields (Condition.allowing allowed) me program post fail store :=
  alone_ensures program.run store finishes

theorem evaluates_of_finishes
    (finishes : Finishes allowed me program post fail store)
    (choice : S.Choice) (allows : allowed choice) :
    ∃ answer last, Evaluates (Condition.allowing allowed) me program.run store
      answer last ∧ outcome post fail answer last :=
  alone_evaluates program.run store finishes choice allows

end Finishing

end Raising

/-! ## Programs one after the other -/

/-- Some program that may start in the store has been executed, again and
again. -/
inductive Sequence (condition : Condition S)
    (starts : S.State → Prog S ρ → Prop) : S.State → S.State → Prop where
  | refl (store : S.State) : Sequence condition starts store store
  | next {first middle last : S.State} (me : Nat) (program : Prog S ρ)
      (answer : ρ) (before : Sequence condition starts first middle)
      (allowed : starts middle program)
      (runs : Evaluates condition me program middle answer last) :
      Sequence condition starts first last

/-- As `Sequence`, with a condition for each program. -/
inductive Episodes
    (starts : Condition S → S.State → Prog S ρ → Prop) :
    S.State → S.State → Prop where
  | refl (store : S.State) : Episodes starts store store
  | next {first middle last : S.State} (me : Nat) (condition : Condition S)
      (program : Prog S ρ) (answer : ρ) (before : Episodes starts first middle)
      (allowed : starts condition middle program)
      (runs : Evaluates condition me program middle answer last) :
      Episodes starts first last

/-- What each program keeps, all of them keep. -/
theorem Episodes.invariant
    {starts : Condition S → S.State → Prog S ρ → Prop} {first last : S.State}
    (episodes : Episodes starts first last) (Inv : S.State → Prop)
    (initially : Inv first)
    (each : ∀ condition store me program, Inv store →
      starts condition store program →
        Ensures condition me program (fun _ later => Inv later) store) :
    Inv last := by
  induction episodes with
  | refl => exact initially
  | next me condition program answer _ allowed runs inductionHypothesis =>
      exact runs.ensured
        (each condition _ me program inductionHypothesis allowed)

theorem Sequence.episodes {condition : Condition S}
    {starts : S.State → Prog S ρ → Prop} {first last : S.State}
    (sequence : Sequence condition starts first last) :
    Episodes (fun used store program =>
      used = condition ∧ starts store program) first last := by
  induction sequence with
  | refl => exact .refl _
  | next me program answer _ allowed runs inductionHypothesis =>
      exact inductionHypothesis.next me condition program answer
        ⟨rfl, allowed⟩ runs

theorem Sequence.invariant {condition : Condition S}
    {starts : S.State → Prog S ρ → Prop} {first last : S.State}
    (sequence : Sequence condition starts first last)
    (Inv : S.State → Prop) (initially : Inv first)
    (each : ∀ store me program, Inv store → starts store program →
      Ensures condition me program (fun _ later => Inv later) store) :
    Inv last := by
  refine sequence.episodes.invariant Inv initially ?_
  rintro _ store me program holds ⟨rfl, allowed⟩
  exact each store me program holds allowed

end Interleaving
