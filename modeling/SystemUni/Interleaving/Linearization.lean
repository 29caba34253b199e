import SystemUni.Interleaving.Sequential

/-!
# Linearization

A program that takes effect in exactly one of its statements.  `Lin` is checked
along the program text, like `Safe`: up to that statement the view of the store
is left alone, the statement itself does to the view what the whole operation
does, and from then on the view is left alone and the answer is decided.  A run
of such programs is equivalent to executing them one after another.
-/

set_option autoImplicit false

namespace Interleaving

variable {S : Signature} {ν β ρ α γ ε : Type}

/-! ## Before and after taking effect -/

/-- No statement waits, starts a program or touches the view. -/
def Quiet (D : Discipline S) (me : Nat) (view : S.State → ν) :
    Prog S α → (α → S.State → Prop) → S.State → Prop
  | .ret value, post, store => post value store
  | .step statement next, post, store => ∀ choice,
      statement.ready me choice store = true ∧
      (D.ok statement.label choice store →
        D.inv (statement.act me choice store) ∧
        D.guar me statement.label choice store
          (statement.act me choice store) ∧
        view (statement.act me choice store) = view store ∧
        ∀ later, D.inv later →
          D.rely me (statement.act me choice store) later →
          Quiet D me view (next me choice store) post later)
  | .fork _ _, _, _ => False

/-- Either the program finishes with `pending`, the view untouched, or one of
its statements performs `effect` and it finishes with `done`. -/
def Lin (D : Discipline S) (me : Nat) (view : S.State → ν)
    (effect : S.Choice → ν → ν × β) :
    Prog S α → (α → S.State → Prop) → (β → α → S.State → Prop) →
      S.State → Prop
  | .ret value, pending, _, store => pending value store
  | .step statement next, pending, done, store => ∀ choice,
      statement.ready me choice store = true ∧
      (D.ok statement.label choice store →
        D.inv (statement.act me choice store) ∧
        D.guar me statement.label choice store
          (statement.act me choice store) ∧
        ((view (statement.act me choice store) = view store ∧
            ∀ later, D.inv later →
              D.rely me (statement.act me choice store) later →
              Lin D me view effect (next me choice store) pending done
                later) ∨
          ∃ result, effect choice (view store) =
              (view (statement.act me choice store), result) ∧
            ∀ later, D.inv later →
              D.rely me (statement.act me choice store) later →
              Quiet D me view (next me choice store) (done result) later))
  | .fork _ _, _, _, _ => False

section Rules

variable {D : Discipline S} {me : Nat} {view : S.State → ν}
  {effect : S.Choice → ν → ν × β}

theorem quiet_bind (program : Prog S α) (rest : α → Prog S γ)
    (post : γ → S.State → Prop) (store : S.State)
    (quiet : Quiet D me view program
      (fun value later => Quiet D me view (rest value) post later) store) :
    Quiet D me view (program.bind rest) post store := by
  induction program generalizing store with
  | ret value => exact quiet
  | step statement next inductionHypothesis =>
      intro choice
      obtain ⟨ready, acts⟩ := quiet choice
      refine ⟨ready, fun ok => ?_⟩
      obtain ⟨kept, guaranteed, same, continues⟩ := acts ok
      exact ⟨kept, guaranteed, same, fun later invariant rely =>
        inductionHypothesis me choice store later
          (continues later invariant rely)⟩
  | fork child next inductionHypothesis => exact quiet.elim

theorem quiet_mono (program : Prog S α) {post other : α → S.State → Prop}
    (store : S.State) (quiet : Quiet D me view program post store)
    (implies : ∀ value later, post value later → other value later) :
    Quiet D me view program other store := by
  induction program generalizing store with
  | ret value => exact implies value store quiet
  | step statement next inductionHypothesis =>
      intro choice
      obtain ⟨ready, acts⟩ := quiet choice
      refine ⟨ready, fun ok => ?_⟩
      obtain ⟨kept, guaranteed, same, continues⟩ := acts ok
      exact ⟨kept, guaranteed, same, fun later invariant rely =>
        inductionHypothesis me choice store later
          (continues later invariant rely)⟩
  | fork child next inductionHypothesis => exact quiet.elim

theorem lin_bind (program : Prog S α) (rest : α → Prog S γ)
    (pending : γ → S.State → Prop) (done : β → γ → S.State → Prop)
    (store : S.State)
    (lin : Lin D me view effect program
      (fun value later => Lin D me view effect (rest value) pending done later)
      (fun result value later =>
        Quiet D me view (rest value) (done result) later) store) :
    Lin D me view effect (program.bind rest) pending done store := by
  induction program generalizing store with
  | ret value => exact lin
  | step statement next inductionHypothesis =>
      intro choice
      obtain ⟨ready, acts⟩ := lin choice
      refine ⟨ready, fun ok => ?_⟩
      obtain ⟨kept, guaranteed, happens⟩ := acts ok
      refine ⟨kept, guaranteed, ?_⟩
      rcases happens with ⟨same, continues⟩ | ⟨result, takes, continues⟩
      · exact .inl ⟨same, fun later invariant rely =>
          inductionHypothesis me choice store later
            (continues later invariant rely)⟩
      · exact .inr ⟨result, takes, fun later invariant rely =>
          quiet_bind _ rest _ later (continues later invariant rely)⟩
  | fork child next inductionHypothesis => exact lin.elim

theorem lin_mono (program : Prog S α) {pending otherPending : α → S.State → Prop}
    {done otherDone : β → α → S.State → Prop} (store : S.State)
    (lin : Lin D me view effect program pending done store)
    (implies : ∀ value later, pending value later → otherPending value later)
    (impliesDone : ∀ result value later, done result value later →
      otherDone result value later) :
    Lin D me view effect program otherPending otherDone store := by
  induction program generalizing store with
  | ret value => exact implies value store lin
  | step statement next inductionHypothesis =>
      intro choice
      obtain ⟨ready, acts⟩ := lin choice
      refine ⟨ready, fun ok => ?_⟩
      obtain ⟨kept, guaranteed, happens⟩ := acts ok
      refine ⟨kept, guaranteed, ?_⟩
      rcases happens with ⟨same, continues⟩ | ⟨result, takes, continues⟩
      · exact .inl ⟨same, fun later invariant rely =>
          inductionHypothesis me choice store later
            (continues later invariant rely)⟩
      · exact .inr ⟨result, takes, fun later invariant rely =>
          quiet_mono _ later (continues later invariant rely)
            (impliesDone result)⟩
  | fork child next inductionHypothesis => exact lin.elim

end Rules

/-! ## Programs that may raise an exception -/

section Raising

variable (D : Discipline S) (me : Nat) (view : S.State → ν)
  (effect : S.Choice → ν → ν × β)

/-- `Quiet` for a program that either returns or raises. -/
def Stays (program : ExceptT ε (Prog S) α) (post : α → S.State → Prop)
    (fail : ε → S.State → Prop) (store : S.State) : Prop :=
  Quiet D me view program.run (outcome post fail) store

/-- `Lin` for a program that either returns or raises. -/
def Takes (program : ExceptT ε (Prog S) α) (pending : α → S.State → Prop)
    (pendingFail : ε → S.State → Prop) (done : β → α → S.State → Prop)
    (doneFail : β → ε → S.State → Prop) (store : S.State) : Prop :=
  Lin D me view effect program.run (outcome pending pendingFail)
    (fun result => outcome (done result) (doneFail result)) store

variable {D me view effect}
variable {post : α → S.State → Prop} {fail : ε → S.State → Prop}
  {pending : α → S.State → Prop} {pendingFail : ε → S.State → Prop}
  {done : β → α → S.State → Prop} {doneFail : β → ε → S.State → Prop}
  {store : S.State}

theorem stays_bind {program : ExceptT ε (Prog S) α}
    {rest : α → ExceptT ε (Prog S) γ} {last : γ → S.State → Prop}
    (stays : Stays D me view program
      (fun value later => Stays D me view (rest value) last fail later) fail
      store) :
    Stays D me view (program >>= rest) last fail store := by
  refine quiet_bind program.run (ExceptT.bindCont rest) _ store
    (quiet_mono program.run store stays ?_)
  intro result later holds
  cases result with
  | ok value => exact holds
  | error exception => exact holds

theorem takes_bind {program : ExceptT ε (Prog S) α}
    {rest : α → ExceptT ε (Prog S) γ} {last : γ → S.State → Prop}
    {lastDone : β → γ → S.State → Prop}
    (takes : Takes D me view effect program
      (fun value later =>
        Takes D me view effect (rest value) last pendingFail lastDone doneFail
          later)
      pendingFail
      (fun result value later =>
        Stays D me view (rest value) (lastDone result) (doneFail result) later)
      doneFail store) :
    Takes D me view effect (program >>= rest) last pendingFail lastDone
      doneFail store := by
  refine lin_bind program.run (ExceptT.bindCont rest) _ _ store
    (lin_mono program.run store takes ?_ ?_)
  · intro result later holds
    cases result with
    | ok value => exact holds
    | error exception => exact holds
  · intro taken result later holds
    cases result with
    | ok value => exact holds
    | error exception => exact holds

theorem takes_mono {program : ExceptT ε (Prog S) α}
    {other : α → S.State → Prop} {otherFail : ε → S.State → Prop}
    {otherDone : β → α → S.State → Prop}
    {otherDoneFail : β → ε → S.State → Prop}
    (takes : Takes D me view effect program pending pendingFail done doneFail
      store)
    (returned : ∀ value later, pending value later → other value later)
    (raised : ∀ exception later, pendingFail exception later →
      otherFail exception later)
    (returnedDone : ∀ result value later, done result value later →
      otherDone result value later)
    (raisedDone : ∀ result exception later, doneFail result exception later →
      otherDoneFail result exception later) :
    Takes D me view effect program other otherFail otherDone otherDoneFail
      store := by
  refine lin_mono program.run store takes ?_ ?_
  · intro result later holds
    cases result with
    | ok value => exact returned value later holds
    | error exception => exact raised exception later holds
  · intro taken result later holds
    cases result with
    | ok value => exact returnedDone taken value later holds
    | error exception => exact raisedDone taken exception later holds

theorem takes_tryCatch {program : ExceptT ε (Prog S) α}
    {handler : ε → ExceptT ε (Prog S) α}
    (takes : Takes D me view effect program pending
      (fun exception later =>
        Takes D me view effect (handler exception) pending pendingFail done
          doneFail later)
      done
      (fun result exception later =>
        Stays D me view (handler exception) (done result) (doneFail result)
          later) store) :
    Takes D me view effect (tryCatch program handler) pending pendingFail done
      doneFail store := by
  refine lin_bind program.run _ _ _ store
    (lin_mono program.run store takes ?_ ?_)
  · intro result later holds
    cases result with
    | ok value => exact holds
    | error exception => exact holds
  · intro taken result later holds
    cases result with
    | ok value => exact holds
    | error exception => exact holds

end Raising

/-! ## The order of a run -/

/-- A program that has taken effect: the choice it did so with and its
result. -/
structure Entry (S : Signature) (β : Type) where
  thread : Nat
  choice : S.Choice
  result : β

/-- The effects in this order lead from one view to the other. -/
inductive Ordered (effect : Nat → S.Choice → ν → ν × β) :
    ν → List (Entry S β) → ν → Prop where
  | nil (state : ν) : Ordered effect state [] state
  | cons {first middle last : ν} (entry : Entry S β)
      (rest : List (Entry S β))
      (takes : effect entry.thread entry.choice first = (middle, entry.result))
      (later : Ordered effect middle rest last) :
      Ordered effect first (entry :: rest) last

theorem Ordered.snoc {effect : Nat → S.Choice → ν → ν × β} {first middle last : ν}
    {order : List (Entry S β)} (ordered : Ordered effect first order middle)
    (entry : Entry S β)
    (takes : effect entry.thread entry.choice middle = (last, entry.result)) :
    Ordered effect first (order ++ [entry]) last := by
  induction ordered with
  | nil state => exact .cons entry [] takes (.nil last)
  | cons earlier rest took later inductionHypothesis =>
      exact .cons earlier _ took (inductionHypothesis takes)

theorem Ordered.split {effect : Nat → S.Choice → ν → ν × β} {first last : ν}
    (earlier later : List (Entry S β)) (entry : Entry S β)
    (ordered : Ordered effect first (earlier ++ entry :: later) last) :
    ∃ before after, Ordered effect first earlier before ∧
      effect entry.thread entry.choice before = (after, entry.result) ∧
      Ordered effect after later last := by
  induction earlier generalizing first with
  | nil =>
      cases ordered with
      | cons _ _ takes rest => exact ⟨first, _, .nil first, takes, rest⟩
  | cons head tail inductionHypothesis =>
      cases ordered with
      | cons _ _ takes rest =>
          obtain ⟨before, after, ordered, takesToo, orderedLater⟩ :=
            inductionHypothesis rest
          exact ⟨before, after, .cons head tail takes ordered, takesToo,
            orderedLater⟩

/-- What every effect respects, all of them respect. -/
theorem Ordered.relates {effect : Nat → S.Choice → ν → ν × β}
    (relation : ν → ν → Prop) (refl : ∀ state, relation state state)
    (trans : ∀ {before middle after}, relation before middle →
      relation middle after → relation before after)
    (each : ∀ thread choice before after result,
      effect thread choice before = (after, result) → relation before after)
    {first last : ν} {order : List (Entry S β)}
    (ordered : Ordered effect first order last) : relation first last := by
  induction ordered with
  | nil state => exact refl state
  | cons entry rest takes later inductionHypothesis =>
      exact trans (each _ _ _ _ _ takes) inductionHypothesis

/-- The program is bound to finish with that result. -/
def Decided (D : Discipline S) (view : S.State → ν) (result : ρ → β)
    (thread : Nat) (program : Prog S ρ) (store : S.State) (entry : Entry S β) :
    Prop :=
  entry.thread = thread ∧ ∀ later, D.inv later → D.rely thread store later →
    Quiet D thread view program (fun value _ => result value = entry.result)
      later

/-- The program has not taken effect yet. -/
def Undecided (D : Discipline S) (view : S.State → ν)
    (effect : Nat → S.Choice → ν → ν × β) (result : ρ → β) (thread : Nat)
    (program : Prog S ρ) (store : S.State) : Prop :=
  ∀ later, D.inv later → D.rely thread store later →
    Lin D thread view (effect thread) program (fun _ _ => False)
      (fun taken value _ => result value = taken) later

/-- The programs in the order lead to the present view, each once, and are
bound to their results; the others have not taken effect. -/
structure Linearized (D : Discipline S) (view : S.State → ν)
    (effect : Nat → S.Choice → ν → ν × β) (result : ρ → β) (initial : ν)
    (config : Config S ρ) (order : List (Entry S β)) : Prop where
  inv : D.inv config.store
  ordered : Ordered effect initial order (view config.store)
  once : (order.map fun entry => entry.thread).Nodup
  known : ∀ entry ∈ order, entry.thread < config.threads.length
  threads : ∀ thread program, config.threads[thread]? = some program →
    (∃ entry ∈ order,
      Decided D view result thread program config.store entry) ∨
    (∀ entry ∈ order, entry.thread ≠ thread) ∧
      Undecided D view effect result thread program config.store

/-! ## Answers -/

def Prog.answer? : Prog S ρ → Option ρ
  | .ret answer => some answer
  | _ => none

/-- What the thread has answered, if it has finished. -/
def Config.answer? (config : Config S ρ) (thread : Nat) : Option ρ :=
  config.threads[thread]?.bind Prog.answer?

def Config.Finished (config : Config S ρ) : Prop :=
  ∀ thread < config.threads.length, (config.answer? thread).isSome = true

instance (config : Config S ρ) : Decidable config.Finished :=
  inferInstanceAs (Decidable (∀ thread < config.threads.length,
    (config.answer? thread).isSome = true))

theorem Config.threads_of_answer? {config : Config S ρ} {thread : Nat}
    {answer : ρ} (answered : config.answer? thread = some answer) :
    config.threads[thread]? = some (.ret answer) := by
  obtain ⟨program, found, isAnswer⟩ := Option.bind_eq_some_iff.mp answered
  rw [found]
  cases program with
  | ret value =>
      cases Option.some.inj isAnswer
      rfl
  | step statement next => cases isAnswer
  | fork child next => cases isAnswer

section Soundness

variable {system : System S ρ} {D : Discipline S} {view : S.State → ν}
  {effect : Nat → S.Choice → ν → ν × β} {result : ρ → β} {initial : ν}
  {config next : Config S ρ} {order : List (Entry S β)}

/-- One statement: the thread takes effect in it or leaves the view alone. -/
theorem Linearized.act
    (linearized : Linearized D view effect result initial config order)
    {thread : Nat} {label : S.Label} {choice : S.Choice}
    (transition : Transition system config (.act thread label choice) next)
    (ok : D.ok label choice config.store) :
    ∃ entries, Linearized D view effect result initial next entries := by
  cases transition with
  | act thread statement rest choice scheduled ready =>
  -- What the statement leaves of the other threads.
  have others (guaranteed : D.guar thread statement.label choice config.store
      (statement.act thread choice config.store)) (other : Nat)
      (program : Prog S ρ) (different : thread ≠ other)
      (found : config.threads[other]? = some program) :
      (∃ entry ∈ order, Decided D view result other program
        (statement.act thread choice config.store) entry) ∨
      (∀ entry ∈ order, entry.thread ≠ other) ∧
        Undecided D view effect result other program
          (statement.act thread choice config.store) := by
    have moves := D.guar_rely different guaranteed
    rcases linearized.threads other program found with
      ⟨entry, member, same, quiet⟩ | ⟨absent, lin⟩
    · exact .inl ⟨entry, member, same, fun later invariant rely =>
        quiet later invariant (D.rely_trans other moves rely)⟩
    · exact .inr ⟨absent, fun later invariant rely =>
        lin later invariant (D.rely_trans other moves rely)⟩
  have bound : thread < config.threads.length :=
    (List.getElem?_eq_some_iff.mp scheduled).1
  have knownStill (entry : Entry S β) (member : entry ∈ order) :
      entry.thread < (config.threads.set thread
        (rest thread choice config.store)).length := by
    rw [List.length_set]
    exact linearized.known entry member
  rcases linearized.threads thread _ scheduled with
    ⟨entry, member, same, quiet⟩ | ⟨absent, lin⟩
  · -- It has taken effect already.
    obtain ⟨_, acts⟩ := quiet config.store linearized.inv
      (D.rely_refl thread config.store) choice
    obtain ⟨kept, guaranteed, unseen, continues⟩ := acts ok
    refine ⟨order, kept, ?_, linearized.once, knownStill, ?_⟩
    · rw [unseen]
      exact linearized.ordered
    · intro other program found
      by_cases mine : thread = other
      · subst mine
        rw [List.getElem?_set_self bound] at found
        cases Option.some.inj found
        exact .inl ⟨entry, member, same, continues⟩
      · rw [List.getElem?_set_ne mine] at found
        exact others guaranteed other program mine found
  · obtain ⟨_, acts⟩ := lin config.store linearized.inv
      (D.rely_refl thread config.store) choice
    obtain ⟨kept, guaranteed, happens⟩ := acts ok
    rcases happens with ⟨unseen, continues⟩ | ⟨taken, takes, continues⟩
    · refine ⟨order, kept, ?_, linearized.once, knownStill, ?_⟩
      · rw [unseen]
        exact linearized.ordered
      · intro other program found
        by_cases mine : thread = other
        · subst mine
          rw [List.getElem?_set_self bound] at found
          cases Option.some.inj found
          exact .inr ⟨absent, continues⟩
        · rw [List.getElem?_set_ne mine] at found
          exact others guaranteed other program mine found
    · refine ⟨order ++ [⟨thread, choice, taken⟩], kept,
        linearized.ordered.snoc _ takes, ?_, ?_, ?_⟩
      · rw [List.map_append, List.nodup_append]
        refine ⟨linearized.once, List.nodup_singleton _, ?_⟩
        intro earlier isEarlier mine isMine same
        obtain ⟨entry, member, rfl⟩ := List.mem_map.mp isEarlier
        have isThread : mine = thread := by simpa using isMine
        exact absent entry member (same.trans isThread)
      · intro entry member
        rcases List.mem_append.mp member with earlier | mine
        · exact knownStill entry earlier
        · rw [List.mem_singleton.mp mine, List.length_set]
          exact bound
      · intro other program found
        by_cases mine : thread = other
        · subst mine
          rw [List.getElem?_set_self bound] at found
          cases Option.some.inj found
          exact .inl ⟨⟨thread, choice, taken⟩, by simp, rfl, continues⟩
        · rw [List.getElem?_set_ne mine] at found
          rcases others guaranteed other program mine found with
            ⟨entry, member, decided⟩ | ⟨absentToo, undecided⟩
          · exact .inl ⟨entry, List.mem_append_left _ member, decided⟩
          · refine .inr ⟨?_, undecided⟩
            intro entry member
            rcases List.mem_append.mp member with earlier | last
            · exact absentToo entry earlier
            · rw [List.mem_singleton.mp last]
              exact mine

theorem Linearized.run
    (linearized : Linearized D view effect result initial config order)
    (closed : ∀ store program, ¬ system.start store program)
    {last : Config S ρ} (run : Run system D.ok config last) :
    ∃ entries, Linearized D view effect result initial last entries ∧
      last.threads.length = config.threads.length := by
  induction run with
  | refl => exact ⟨order, linearized, rfl⟩
  | @step middle last event before transition admitted inductionHypothesis =>
      obtain ⟨entries, here, length⟩ := inductionHypothesis
      have happened := transition
      cases transition with
      | arrive program allowed => exact absurd allowed (closed _ program)
      | fork thread child next scheduled =>
          -- Neither kind of program starts another one.
          exfalso
          rcases here.threads thread _ scheduled with
            ⟨entry, _, _, quiet⟩ | ⟨_, lin⟩
          · exact quiet middle.store here.inv (D.rely_refl thread _)
          · exact lin middle.store here.inv (D.rely_refl thread _)
      | act thread statement next choice scheduled ready =>
          obtain ⟨later, linearizedLater⟩ := here.act happened admitted
          exact ⟨later, linearizedLater, by simpa using length⟩

/-- Once every program has finished, the order is one of all of them and its
results are their answers. -/
theorem Linearized.finished
    (linearized : Linearized D view effect result initial config order)
    (finished : config.Finished) :
    (order.map fun entry => entry.thread).Perm
        (List.range config.threads.length) ∧
      ∀ entry ∈ order, ∃ answer,
        config.answer? entry.thread = some answer ∧
          result answer = entry.result := by
  have answers (thread : Nat) (bound : thread < config.threads.length) :
      ∃ entry ∈ order, entry.thread = thread ∧ ∃ answer,
        config.answer? thread = some answer ∧
          result answer = entry.result := by
    obtain ⟨answer, answered⟩ :=
      Option.isSome_iff_exists.mp (finished thread bound)
    have found := Config.threads_of_answer? answered
    rcases linearized.threads thread _ found with
      ⟨entry, member, same, quiet⟩ | ⟨_, lin⟩
    · exact ⟨entry, member, same, answer, answered,
        quiet config.store linearized.inv (D.rely_refl thread _)⟩
    · exact (lin config.store linearized.inv (D.rely_refl thread _)).elim
  constructor
  · refine (List.perm_ext_iff_of_nodup linearized.once
      List.nodup_range).mpr ?_
    intro thread
    rw [List.mem_range, List.mem_map]
    constructor
    · rintro ⟨entry, member, rfl⟩
      exact linearized.known entry member
    · intro bound
      obtain ⟨entry, member, same, _⟩ := answers thread bound
      exact ⟨entry, member, same⟩
  · intro entry member
    obtain ⟨other, otherMember, same, answer, found, decided⟩ :=
      answers entry.thread (linearized.known entry member)
    have equal : other = entry :=
      List.inj_on_of_nodup_map linearized.once otherMember member same
    rw [equal] at decided
    exact ⟨answer, found, decided⟩

end Soundness

/-! ## One after another -/

/-- The programs are executed alone in this order. -/
inductive OneAfterAnother (condition : Condition S)
    (program : Nat → Prog S ρ) :
    List Nat → S.State → List (Nat × ρ) → S.State → Prop where
  | nil (store : S.State) : OneAfterAnother condition program [] store [] store
  | cons (thread : Nat) (rest : List Nat) {store middle last : S.State}
      {answer : ρ} {answers : List (Nat × ρ)}
      (runs : Evaluates condition thread (program thread) store answer middle)
      (later : OneAfterAnother condition program rest middle answers last) :
      OneAfterAnother condition program (thread :: rest) store
        ((thread, answer) :: answers) last

section Alone

variable {D : Discipline S} {me : Nat} {view : S.State → ν}

theorem quiet_evaluates (program : Prog S α) {post : α → S.State → Prop}
    {store last : S.State} {value : α}
    (quiet : Quiet D me view program post store) (invariant : D.inv store)
    (runs : Evaluates D.ok me program store value last) :
    D.inv last ∧ view last = view store ∧ post value last := by
  induction runs with
  | ret value store => exact ⟨invariant, rfl, quiet⟩
  | step statement next choice store ready admitted _ inductionHypothesis =>
      obtain ⟨_, acts⟩ := quiet choice
      obtain ⟨kept, _, same, continues⟩ := acts admitted
      obtain ⟨keptLast, sameLast, holds⟩ :=
        inductionHypothesis (continues _ kept (D.rely_refl me _)) kept
      exact ⟨keptLast, sameLast.trans same, holds⟩
  | fork child next _ _ => exact quiet.elim

/-- Alone, the program performs its effect with one of its choices. -/
theorem lin_evaluates {effect : S.Choice → ν → ν × β} (program : Prog S α)
    {done : β → α → S.State → Prop} {store last : S.State} {value : α}
    (lin : Lin D me view effect program (fun _ _ => False) done store)
    (invariant : D.inv store)
    (runs : Evaluates D.ok me program store value last) :
    ∃ choice result, D.inv last ∧
      effect choice (view store) = (view last, result) ∧
      done result value last := by
  induction runs with
  | ret value store => exact lin.elim
  | step statement next choice store ready admitted rest
      inductionHypothesis =>
      obtain ⟨_, acts⟩ := lin choice
      obtain ⟨kept, _, happens⟩ := acts admitted
      rcases happens with ⟨same, continues⟩ | ⟨result, takes, continues⟩
      · obtain ⟨drawn, result, keptLast, takes, holds⟩ :=
          inductionHypothesis (continues _ kept (D.rely_refl me _)) kept
        rw [same] at takes
        exact ⟨drawn, result, keptLast, takes, holds⟩
      · obtain ⟨keptLast, sameLast, holds⟩ :=
          quiet_evaluates _ (continues _ kept (D.rely_refl me _)) kept rest
        rw [← sameLast] at takes
        exact ⟨choice, result, keptLast, takes, holds⟩
  | fork child next _ _ => exact lin.elim

/-! Some choice is always possible; then the program finishes. -/

variable (possible : ∀ label store, ∃ choice, D.ok label choice store)

include possible

theorem quiet_finishes (program : Prog S α) {post : α → S.State → Prop}
    (store : S.State) (quiet : Quiet D me view program post store)
    (invariant : D.inv store) :
    ∃ value last, Evaluates D.ok me program store value last := by
  induction program generalizing store with
  | ret value => exact ⟨value, store, .ret value store⟩
  | step statement next inductionHypothesis =>
      obtain ⟨choice, ok⟩ := possible statement.label store
      obtain ⟨ready, acts⟩ := quiet choice
      obtain ⟨kept, _, _, continues⟩ := acts ok
      obtain ⟨value, last, runs⟩ := inductionHypothesis me choice store _
        (continues _ kept (D.rely_refl me _)) kept
      exact ⟨value, last, .step statement next choice store ready ok runs⟩
  | fork child next inductionHypothesis => exact quiet.elim

/-- The effect can be performed with any choice that is possible as long as the
view stays as it is. -/
theorem lin_finishes {effect : S.Choice → ν → ν × β} (program : Prog S α)
    {done : β → α → S.State → Prop} (store : S.State)
    (lin : Lin D me view effect program (fun _ _ => False) done store)
    (invariant : D.inv store) (choice : S.Choice)
    (ok : ∀ label later, view later = view store → D.ok label choice later) :
    ∃ value last result, Evaluates D.ok me program store value last ∧
      D.inv last ∧ effect choice (view store) = (view last, result) ∧
      done result value last := by
  induction program generalizing store with
  | ret value => exact lin.elim
  | step statement next inductionHypothesis =>
      have okNow := ok statement.label store rfl
      obtain ⟨ready, acts⟩ := lin choice
      obtain ⟨kept, _, happens⟩ := acts okNow
      rcases happens with ⟨same, continues⟩ | ⟨result, takes, continues⟩
      · obtain ⟨value, last, result, runs, keptLast, takes, holds⟩ :=
          inductionHypothesis me choice store _
            (continues _ kept (D.rely_refl me _)) kept
            fun label later sameLater => ok label later (sameLater.trans same)
        rw [same] at takes
        exact ⟨value, last, result,
          .step statement next choice store ready okNow runs, keptLast, takes,
          holds⟩
      · have quiet := continues _ kept (D.rely_refl me _)
        obtain ⟨value, last, runs⟩ :=
          quiet_finishes possible _ _ quiet kept
        obtain ⟨keptLast, sameLast, holds⟩ :=
          quiet_evaluates _ quiet kept runs
        rw [← sameLast] at takes
        exact ⟨value, last, result,
          .step statement next choice store ready okNow runs, keptLast, takes,
          holds⟩
  | fork child next inductionHypothesis => exact lin.elim

end Alone

section Sequential

variable {D : Discipline S} {view : S.State → ν}
  {effect : Nat → S.Choice → ν → ν × β} {result : ρ → β}
  {program : Nat → Prog S ρ}

/-- Executed one after another, the programs perform their effects in that
order. -/
theorem OneAfterAnother.ordered {order : List Nat}
    {answers : List (Nat × ρ)} {store last : S.State}
    (runs : OneAfterAnother D.ok program order store answers last)
    (lin : ∀ thread ∈ order, ∀ store, D.inv store →
      Lin D thread view (effect thread) (program thread) (fun _ _ => False)
        (fun taken value _ => result value = taken) store)
    (invariant : D.inv store) :
    ∃ entries : List (Entry S β),
      Ordered effect (view store) entries (view last) ∧
        (entries.map fun entry => (entry.thread, entry.result)) =
          (answers.map fun answer => (answer.1, result answer.2)) ∧
        (entries.map fun entry => entry.thread) = order := by
  induction runs with
  | nil store => exact ⟨[], .nil _, rfl, rfl⟩
  | cons thread rest runs later inductionHypothesis =>
      obtain ⟨choice, taken, kept, takes, same⟩ := lin_evaluates _
        (lin thread (List.mem_cons_self ..) _ invariant) invariant runs
      obtain ⟨entries, ordered, results, threads⟩ := inductionHypothesis
        (fun other member => lin other (List.mem_cons_of_mem _ member)) kept
      refine ⟨⟨thread, choice, taken⟩ :: entries, .cons _ _ takes ordered, ?_,
        ?_⟩
      · simp only [List.map_cons, results, same]
      · simp only [List.map_cons, threads]

/-- Each effect of an order can be performed by its program alone, with a
choice that is possible there. -/
theorem Ordered.executed (program : Nat → Prog S ρ) {first final : ν} {entries : List (Entry S β)}
    (ordered : Ordered effect first entries final)
    (possible : ∀ label store, ∃ choice, D.ok label choice store)
    (redrawn : ∀ entry ∈ entries, ∀ before after,
      effect entry.thread entry.choice before = (after, entry.result) →
      ∃ choice, effect entry.thread choice before = (after, entry.result) ∧
        ∀ label later, view later = before → D.ok label choice later)
    (lin : ∀ entry ∈ entries, ∀ store, D.inv store →
      Lin D entry.thread view (effect entry.thread) (program entry.thread)
        (fun _ _ => False) (fun taken value _ => result value = taken) store)
    (store : S.State) (invariant : D.inv store) (here : view store = first) :
    ∃ answers last, view last = final ∧
      OneAfterAnother D.ok program (entries.map fun entry => entry.thread)
        store answers last := by
  induction ordered generalizing store with
  | nil state => exact ⟨[], store, here, .nil store⟩
  | cons entry rest takes later inductionHypothesis =>
      have member : entry ∈ entry :: rest := List.mem_cons_self ..
      obtain ⟨choice, takesSo, ok⟩ := redrawn entry member _ _ takes
      obtain ⟨value, middle, taken, runs, kept, performs, _⟩ :=
        lin_finishes possible _ store (lin entry member store invariant)
          invariant choice fun label next same => ok label next (same.trans here)
      rw [here, takesSo] at performs
      obtain ⟨answers, last, ends, sequential⟩ := inductionHypothesis
        (fun other found => redrawn other (List.mem_cons_of_mem _ found))
        (fun other found => lin other (List.mem_cons_of_mem _ found)) middle
        kept (congrArg Prod.fst performs).symm
      exact ⟨(entry.thread, value) :: answers, last, ends,
        .cons entry.thread _ runs sequential⟩

/-- Effects that related views answer alike lead to related views, whatever is
drawn. -/
theorem Ordered.agree {first last other otherLast : ν}
    {entries otherEntries : List (Entry S β)} (Same : ν → ν → Prop)
    (real : β → Prop)
    (alike : ∀ thread choice otherChoice before otherBefore after otherAfter
      taken otherTaken, Same before otherBefore →
      effect thread choice before = (after, taken) → real taken →
      effect thread otherChoice otherBefore = (otherAfter, otherTaken) →
      real otherTaken → taken = otherTaken ∧ Same after otherAfter)
    (ordered : Ordered effect first entries last)
    (otherOrdered : Ordered effect other otherEntries otherLast)
    (same : Same first other)
    (threads : (entries.map fun entry => entry.thread) =
      otherEntries.map fun entry => entry.thread)
    (reals : ∀ entry ∈ entries, real entry.result)
    (otherReals : ∀ entry ∈ otherEntries, real entry.result) :
    (entries.map fun entry => (entry.thread, entry.result)) =
        (otherEntries.map fun entry => (entry.thread, entry.result)) ∧
      Same last otherLast := by
  induction ordered generalizing other otherEntries with
  | nil state =>
      cases otherOrdered with
      | nil otherState => exact ⟨rfl, same⟩
      | cons entry rest takes later => simp at threads
  | cons entry rest takes later inductionHypothesis =>
      cases otherOrdered with
      | nil otherState => simp at threads
      | cons otherEntry otherRest otherTakes otherLater =>
          rw [List.map_cons, List.map_cons, List.cons.injEq] at threads
          rw [← threads.1] at otherTakes
          obtain ⟨sameResult, sameNext⟩ := alike _ _ _ _ _ _ _ _ _ same takes
            (reals entry (List.mem_cons_self ..)) otherTakes
            (otherReals otherEntry (List.mem_cons_self ..))
          obtain ⟨results, sameLast⟩ := inductionHypothesis otherLater sameNext
            threads.2
            (fun found member => reals found (List.mem_cons_of_mem _ member))
            fun found member =>
              otherReals found (List.mem_cons_of_mem _ member)
          refine ⟨?_, sameLast⟩
          rw [List.map_cons, List.map_cons, results, threads.1, sameResult]

end Sequential

end Interleaving
