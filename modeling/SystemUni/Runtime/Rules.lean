import SystemUni.Interleaving.Determined
import SystemUni.Interleaving.Logic
import SystemUni.Runtime.Statements

/-!
# Rules for the statements

One rule per kind of statement, for the disciplines that let a statement leave
the store as it was.
-/

set_option autoImplicit false

namespace SystemUni.Runtime.Rules

open Interleaving
open SystemUni.Runtime.Errors
open SystemUni.Runtime.Statements

theorem written_cases {α : Type} (call : CallOutcome)
    (result : Except Exc (α × Store)) (store : Store) :
    written call result store = store ∨
      ∃ value next, result = .ok (value, next) ∧
        written call result store = next := by
  cases call with
  | failed kind text => exact .inl rfl
  | done =>
      cases result with
      | error exc => exact .inl rfl
      | ok outcome => exact .inr ⟨outcome.1, outcome.2, rfl, rfl⟩
  | lost kind text =>
      cases result with
      | error exc => exact .inl rfl
      | ok outcome => exact .inr ⟨outcome.1, outcome.2, rfl, rfl⟩

theorem holds_withFinally (logic : Logic university Exc) {α : Type}
    {body : Py α} {final : Py Unit} {post : α → Store → Prop}
    {fail : Exc → Store → Prop} {store : Store}
    (runs : logic.Holds body
      (fun value later => logic.Holds final (fun _ => post value) fail later)
      (fun exc later => logic.Holds final (fun _ => fail exc) fail later)
      store) :
    logic.Holds (withFinally body final) post fail store := by
  refine logic.sequences (logic.handles (logic.weakens runs ?_ ?_))
  · intro value later finishes
    exact logic.sequences (logic.weakens finishes
      (fun _ _ holds => logic.returns _ holds) fun _ _ failed => failed)
  · intro exc later finishes
    exact logic.sequences (logic.weakens finishes
      (fun _ _ holds => logic.raises _ holds) fun _ _ failed => failed)

/-- A statement may leave the store as it was. -/
def Stutters (D : Discipline university) : Prop :=
  ∀ me label choice store, D.inv store → D.guar me label choice store store

section Runs

variable {D : Discipline university} {me : Nat} {α β : Type}
  {post : α → Store → Prop} {fail : Exc → Store → Prop} {store : Store}

theorem runs_lockingTransaction (still : Stutters D) {label : Label}
    {ready : Nat → Store → Bool}
    {body : Nat → Choice → Store → Except Exc (α × Store)}
    (invariant : D.inv store)
    (raises : ∀ exc later, Later D me store later → fail exc later)
    (commits : ∀ choice value next, ready me store = true →
      D.ok label choice store → body me choice store = .ok (value, next) →
        D.inv next ∧ D.guar me label choice store next ∧
          ∀ later, Later D me next later →
            post value later ∧ ∀ exc, fail exc later) :
    Runs D me (lockingTransaction label ready body) post fail store := by
  intro choice isReady ok
  change D.inv (written choice.call (body me choice store) store) ∧
    D.guar me label choice store
      (written choice.call (body me choice store) store) ∧
    ∀ later, D.inv later →
      D.rely me (written choice.call (body me choice store) store) later →
        outcome post fail (answered choice.call (body me choice store)) later
  cases result : body me choice store with
  | error exc =>
      have same : written choice.call
          (Except.error exc : Except Exc (α × Store)) store = store := by
        cases choice.call <;> rfl
      rw [same]
      refine ⟨invariant, still me label choice store invariant, ?_⟩
      intro later laterInvariant rely
      cases choice.call <;> exact raises _ later ⟨laterInvariant, rely⟩
  | ok pair =>
      obtain ⟨value, next⟩ := pair
      obtain ⟨kept, guaranteed, continues⟩ :=
        commits choice value next isReady ok result
      cases choice.call with
      | failed kind text =>
          refine ⟨invariant, still me label choice store invariant, ?_⟩
          intro later laterInvariant rely
          exact raises _ later ⟨laterInvariant, rely⟩
      | done =>
          refine ⟨kept, guaranteed, ?_⟩
          intro later laterInvariant rely
          exact (continues later ⟨laterInvariant, rely⟩).1
      | lost kind text =>
          refine ⟨kept, guaranteed, ?_⟩
          intro later laterInvariant rely
          exact (continues later ⟨laterInvariant, rely⟩).2 _

theorem runs_transaction (still : Stutters D) {label : Label}
    {body : Choice → Store → Except Exc (α × Store)}
    (invariant : D.inv store)
    (raises : ∀ exc later, Later D me store later → fail exc later)
    (commits : ∀ choice value next, D.ok label choice store →
      body choice store = .ok (value, next) →
        D.inv next ∧ D.guar me label choice store next ∧
          ∀ later, Later D me next later →
            post value later ∧ ∀ exc, fail exc later) :
    Runs D me (transaction label body) post fail store :=
  runs_lockingTransaction still invariant raises
    fun choice value next _ ok result => commits choice value next ok result

/-- Beside others, with every call succeeding. -/
theorem runs_succeeding (still : Stutters D) {label : Label}
    {body : Choice → Store → Except Exc (α × Store)}
    (invariant : D.inv store)
    (succeeds : ∀ choice, D.ok label choice store → choice.call = .done)
    (refuses : ∀ choice exc later, D.ok label choice store →
      body choice store = .error exc → Later D me store later → fail exc later)
    (commits : ∀ choice value next, D.ok label choice store →
      body choice store = .ok (value, next) →
        D.inv next ∧ D.guar me label choice store next ∧
          ∀ later, Later D me next later → post value later) :
    Runs D me (transaction label body) post fail store := by
  intro choice _ ok
  change D.inv (written choice.call (body choice store) store) ∧
    D.guar me label choice store
      (written choice.call (body choice store) store) ∧
    ∀ later, D.inv later →
      D.rely me (written choice.call (body choice store) store) later →
        outcome post fail (answered choice.call (body choice store)) later
  rw [succeeds choice ok]
  cases result : body choice store with
  | error exc =>
      refine ⟨invariant, still me label choice store invariant, ?_⟩
      intro later laterInvariant rely
      exact refuses choice exc later ok result ⟨laterInvariant, rely⟩
  | ok pair =>
      obtain ⟨kept, guaranteed, continues⟩ :=
        commits choice pair.1 pair.2 ok result
      refine ⟨kept, guaranteed, ?_⟩
      intro later laterInvariant rely
      exact continues later ⟨laterInvariant, rely⟩

theorem runs_query (still : Stutters D) {read : Store → α}
    (invariant : D.inv store)
    (raises : ∀ exc later, Later D me store later → fail exc later)
    (returns : ∀ later, Later D me store later → post (read store) later) :
    Runs D me (query read) post fail store := by
  refine runs_transaction still invariant raises ?_
  intro choice value next ok result
  cases result
  refine ⟨invariant, still me .query choice store invariant, ?_⟩
  intro later follows
  exact ⟨returns later follows, fun exc => raises exc later follows⟩

theorem runs_select (still : Stutters D) {read : Store → α}
    (invariant : D.inv store)
    (raises : ∀ kind text later, Later D me store later →
      fail (.sql kind text) later)
    (returns : ∀ later, Later D me store later → post (read store) later) :
    Runs D me (query read) post fail store := by
  intro choice _ _
  have same : written choice.call
      (Except.ok (read store, store) : Except Exc (α × Store)) store =
        store := by
    cases choice.call <;> rfl
  change D.inv (written choice.call (.ok (read store, store)) store) ∧
    D.guar me .query choice store
      (written choice.call (.ok (read store, store)) store) ∧
    ∀ later, D.inv later →
      D.rely me (written choice.call (.ok (read store, store)) store) later →
        outcome post fail (answered choice.call (.ok (read store, store)))
          later
  rw [same]
  refine ⟨invariant, still me .query choice store invariant, ?_⟩
  intro later laterInvariant rely
  cases choice.call with
  | done => exact returns later ⟨laterInvariant, rely⟩
  | failed kind text => exact raises kind text later ⟨laterInvariant, rely⟩
  | lost kind text => exact raises kind text later ⟨laterInvariant, rely⟩

/-- A `SELECT` whose parameters are cast fails where they do not fit. -/
theorem runs_cast (still : Stutters D) {fits : Bool} {read : Store → α}
    (invariant : D.inv store)
    (raises : ∀ exc later, Later D me store later → fail exc later)
    (returns : ∀ later, Later D me store later → post (read store) later) :
    Runs D me (select fits read) post fail store := by
  refine runs_transaction still invariant raises ?_
  intro choice value next ok result
  split at result
  · cases result
    refine ⟨invariant, still me .query choice store invariant, ?_⟩
    intro later follows
    exact ⟨returns later follows, fun exc => raises exc later follows⟩
  · cases result

theorem runs_command {label : Label}
    {body : Nat → Choice → Store → α × Store}
    (acts : ∀ choice, D.ok label choice store →
      D.inv (body me choice store).2 ∧
        D.guar me label choice store (body me choice store).2 ∧
        ∀ later, Later D me (body me choice store).2 later →
          post (body me choice store).1 later) :
    Runs D me (command label body) post fail store := by
  intro choice _ ok
  obtain ⟨kept, guaranteed, continues⟩ := acts choice ok
  exact ⟨kept, guaranteed, fun later invariant rely =>
    continues later ⟨invariant, rely⟩⟩

theorem runs_internal {body : Nat → Choice → Store → α × Store}
    (acts : ∀ choice, D.ok .internal choice store →
      D.inv (body me choice store).2 ∧
        D.guar me .internal choice store (body me choice store).2 ∧
        ∀ later, Later D me (body me choice store).2 later →
          post (body me choice store).1 later) :
    Runs D me (internal body) post fail store :=
  runs_command acts

theorem runs_observe (still : Stutters D) {observe : Nat → Choice → Store → α}
    (invariant : D.inv store)
    (returns : ∀ choice later, Later D me store later →
      post (observe me choice store) later) :
    Runs D me (internal fun me choice store => (observe me choice store, store))
      post fail store :=
  runs_internal fun choice _ =>
    ⟨invariant, still me .internal choice store invariant,
      returns choice⟩

theorem runs_startThread {child : Child} {post : Unit → Store → Prop}
    (returns : ∀ later, Later D me store later → post () later) :
    Runs D me (startThread child) post fail store :=
  fun later invariant rely => returns later ⟨invariant, rely⟩

theorem runs_withFinally {body : Py α} {final : Py Unit}
    (runs : Runs D me body
      (fun value later => Runs D me final (fun _ => post value) fail later)
      (fun exc later => Runs D me final (fun _ => fail exc) fail later)
      store) :
    Runs D me (withFinally body final) post fail store :=
  holds_withFinally (D.logic me Exc) runs

end Runs

/-! ## Programs that leave a part of the store alone -/

section Leaves

variable {α β ν : Type} {view : Store → ν}

theorem leaves_lockingTransaction {label : Label} {ready : Nat → Store → Bool}
    {body : Nat → Choice → Store → Except Exc (α × Store)}
    (kept : ∀ me choice store value next,
      body me choice store = .ok (value, next) → view next = view store) :
    Leaves view (lockingTransaction label ready body) := by
  intro me choice store _
  refine ⟨?_, trivial⟩
  rcases written_cases choice.call (body me choice store) store with
    same | ⟨value, next, result, same⟩
  · exact congrArg view same
  · exact (congrArg view same).trans (kept me choice store value next result)

theorem leaves_transaction {label : Label}
    {body : Choice → Store → Except Exc (α × Store)}
    (kept : ∀ choice store value next,
      body choice store = .ok (value, next) → view next = view store) :
    Leaves view (transaction label body) :=
  leaves_lockingTransaction fun _ => kept

theorem leaves_query {read : Store → α} : Leaves view (query read) := by
  refine leaves_transaction ?_
  intro choice store value next result
  cases result
  rfl

theorem leaves_select {fits : Bool} {read : Store → α} :
    Leaves view (select fits read) := by
  refine leaves_transaction ?_
  intro choice store value next result
  split at result
  · cases result
    rfl
  · cases result

theorem leaves_command {label : Label}
    {body : Nat → Choice → Store → α × Store}
    (kept : ∀ me choice store, view (body me choice store).2 = view store) :
    Leaves view (command label body) :=
  fun me choice store _ => ⟨kept me choice store, trivial⟩

theorem leaves_internal {body : Nat → Choice → Store → α × Store}
    (kept : ∀ me choice store, view (body me choice store).2 = view store) :
    Leaves view (internal body) :=
  leaves_command kept

theorem leaves_observe {observe : Nat → Choice → Store → α} :
    Leaves view
      (internal fun me choice store => (observe me choice store, store)) :=
  leaves_internal fun _ _ _ => rfl

theorem leaves_startThread {child : Child} :
    Leaves view (startThread child) := trivial

theorem leaves_withFinally {body : Py α} {final : Py Unit}
    (first : Leaves view body) (last : Leaves view final) :
    Leaves view (withFinally body final) :=
  leaves_bind
    (leaves_tryCatch first fun _ => leaves_bind last fun _ => leaves_throw)
    fun _ => leaves_bind last fun _ => leaves_pure

end Leaves

/-! ## Running alone, with every call succeeding -/

section Finishes

def callSucceeds (choice : Choice) : Prop := choice.call = .done

/-- These choices let every call succeed. -/
class Answered (allowed : Choice → Prop) : Prop where
  done : ∀ choice, allowed choice → choice.call = .done

instance : Answered callSucceeds := ⟨fun _ succeeds => succeeds⟩

variable {allowed : Choice → Prop} [Answered allowed] {me : Nat} {α : Type}
  {post : α → Store → Prop} {fail : Exc → Store → Prop} {store : Store}

theorem finishes_lockingTransaction {label : Label}
    {ready : Nat → Store → Bool}
    {body : Nat → Choice → Store → Except Exc (α × Store)}
    (isReady : ready me store = true)
    (commits : ∀ choice value next, allowed choice →
      body me choice store = .ok (value, next) → post value next)
    (refuses : ∀ choice exc, allowed choice →
      body me choice store = .error exc → fail exc store) :
    Finishes allowed me (lockingTransaction label ready body) post fail
      store := by
  intro choice allows
  refine ⟨isReady, ?_⟩
  change outcome (S := university) post fail
    (answered choice.call (body me choice store))
    (written choice.call (body me choice store) store)
  rw [Answered.done choice allows]
  cases result : body me choice store with
  | error exc => exact refuses choice exc allows result
  | ok pair => exact commits choice pair.1 pair.2 allows result

theorem finishes_transaction {label : Label}
    {body : Choice → Store → Except Exc (α × Store)}
    (commits : ∀ choice value next, allowed choice →
      body choice store = .ok (value, next) → post value next)
    (refuses : ∀ choice exc, allowed choice →
      body choice store = .error exc → fail exc store) :
    Finishes allowed me (transaction label body) post fail store :=
  finishes_lockingTransaction rfl commits refuses

theorem finishes_query {read : Store → α} (returns : post (read store) store) :
    Finishes allowed me (query read) post fail store := by
  refine finishes_transaction ?_ ?_
  · intro choice value next _ body
    cases body
    exact returns
  · intro choice exc _ body
    cases body

theorem finishes_select {fits : Bool} {read : Store → α}
    (returns : fits = true → post (read store) store)
    (refuses : fits = false →
      fail (.sql .dataError SqlError.dataError.typeName) store) :
    Finishes allowed me (select fits read) post fail store := by
  refine finishes_transaction ?_ ?_
  · intro choice value next _ body
    split at body
    · rename_i fit
      cases body
      exact returns fit
    · cases body
  · intro choice exc _ body
    split at body
    · cases body
    · rename_i misfit
      cases body
      exact refuses (by simpa using misfit)

omit [Answered allowed] in
theorem finishes_command {label : Label}
    {body : Nat → Choice → Store → α × Store}
    (acts : ∀ choice, allowed choice →
      post (body me choice store).1 (body me choice store).2) :
    Finishes allowed me (command label body) post fail store :=
  fun choice allows => ⟨rfl, acts choice allows⟩

omit [Answered allowed] in
theorem finishes_withFinally {body : Py α} {final : Py Unit}
    (first : Finishes allowed me body
      (fun value later =>
        Finishes allowed me final (fun _ => post value) fail later)
      (fun exc later => Finishes allowed me final (fun _ => fail exc) fail
        later) store) :
    Finishes allowed me (withFinally body final) post fail store :=
  holds_withFinally (@Logic.alone university allowed me Exc) first

end Finishes

/-! ## Programs that see only a part of the store -/

section Depends

variable {α ν : Type} {view : Store → ν} {allowed : Choice → Prop}

theorem depends_transaction [Answered allowed] {label : Label}
    {body : Choice → Store → Except Exc (α × Store)}
    (same : ∀ choice store other otherStore, allowed choice → allowed other →
      view otherStore = view store →
      (body other otherStore).map (fun done => (done.1, view done.2)) =
        (body choice store).map fun done => (done.1, view done.2)) :
    Depends view allowed (transaction label body) := by
  intro me choice store allows
  refine ⟨rfl, trivial, ?_⟩
  intro other otherChoice otherStore otherAllows sameView
  have agrees := same choice store otherChoice otherStore allows otherAllows
    sameView
  change view (written otherChoice.call (body otherChoice otherStore)
      otherStore) = view (written choice.call (body choice store) store) ∧
    Prog.ret (answered otherChoice.call (body otherChoice otherStore)) =
      Prog.ret (answered choice.call (body choice store))
  rw [Answered.done choice allows, Answered.done otherChoice otherAllows]
  cases result : body choice store with
  | error exc =>
      cases otherResult : body otherChoice otherStore with
      | error otherExc =>
          rw [result, otherResult] at agrees
          cases agrees
          exact ⟨sameView, rfl⟩
      | ok done =>
          rw [result, otherResult] at agrees
          cases agrees
  | ok done =>
      cases otherResult : body otherChoice otherStore with
      | error otherExc =>
          rw [result, otherResult] at agrees
          cases agrees
      | ok otherDone =>
          rw [result, otherResult] at agrees
          obtain ⟨value, next⟩ := Prod.ext_iff.mp (Except.ok.inj agrees)
          refine ⟨next, ?_⟩
          change Prog.ret (Except.ok otherDone.1) = Prog.ret (.ok done.1)
          rw [show otherDone.1 = done.1 from value]

theorem depends_query [Answered allowed] {read : Store → α}
    (same : ∀ store other, view other = view store → read other = read store) :
    Depends view allowed (query read) := by
  refine depends_transaction ?_
  intro choice store other otherStore _ _ sameView
  simp only [Except.map, same store otherStore sameView, sameView]

theorem depends_command {label : Label}
    {body : Nat → Choice → Store → α × Store}
    (same : ∀ me choice store other otherChoice otherStore, allowed choice →
      allowed otherChoice → view otherStore = view store →
      view (body other otherChoice otherStore).2 =
          view (body me choice store).2 ∧
        (body other otherChoice otherStore).1 = (body me choice store).1) :
    Depends view allowed (command label body) := by
  intro me choice store allows
  refine ⟨rfl, trivial, ?_⟩
  intro other otherChoice otherStore otherAllows sameView
  obtain ⟨next, value⟩ :=
    same me choice store other otherChoice otherStore allows otherAllows sameView
  exact ⟨next, congrArg (fun value => Prog.ret (Except.ok value)) value⟩

end Depends

/-! ## Sequential use -/

/-- A call to the database may fail, or its answer may be lost. -/
def Risky (condition : Condition university) (label : Label) (store : Store) :
    Prop :=
  ∃ choice, condition label choice store ∧ choice.call ≠ .done

section Yields

variable {condition : Condition university} {me : Nat} {α : Type}
  {post : α → Store → Prop} {fail : Exc → Store → Prop} {store : Store}

theorem yields_lockingTransaction {label : Label}
    {ready : Nat → Store → Bool}
    {body : Nat → Choice → Store → Except Exc (α × Store)}
    (fails : ∀ kind text, Risky condition label store →
      fail (.sql kind text) store)
    (commits : ∀ choice value next, condition label choice store →
      body me choice store = .ok (value, next) →
        post value next ∧ ∀ kind text, Risky condition label store →
          fail (.sql kind text) next)
    (refuses : ∀ choice exc, condition label choice store →
      body me choice store = .error exc → fail exc store) :
    Yields condition me (lockingTransaction label ready body) post fail
      store := by
  intro choice _ admitted
  change outcome (S := university) post fail
    (answered choice.call (body me choice store))
    (written choice.call (body me choice store) store)
  have risky (bad : choice.call ≠ .done) : Risky condition label store :=
    ⟨choice, admitted, bad⟩
  cases result : body me choice store with
  | error exc =>
      cases call : choice.call with
      | done => exact refuses choice exc admitted result
      | failed kind text => exact fails kind text (risky (by simp [call]))
      | lost kind text => exact fails kind text (risky (by simp [call]))
  | ok pair =>
      obtain ⟨returns, loses⟩ :=
        commits choice pair.1 pair.2 admitted result
      cases call : choice.call with
      | done => exact returns
      | failed kind text => exact fails kind text (risky (by simp [call]))
      | lost kind text => exact loses kind text (risky (by simp [call]))

theorem yields_transaction {label : Label}
    {body : Choice → Store → Except Exc (α × Store)}
    (fails : ∀ kind text, Risky condition label store →
      fail (.sql kind text) store)
    (commits : ∀ choice value next, condition label choice store →
      body choice store = .ok (value, next) →
        post value next ∧ ∀ kind text, Risky condition label store →
          fail (.sql kind text) next)
    (refuses : ∀ choice exc, condition label choice store →
      body choice store = .error exc → fail exc store) :
    Yields condition me (transaction label body) post fail store :=
  yields_lockingTransaction fails commits refuses

theorem yields_query {read : Store → α}
    (fails : ∀ kind text, Risky condition .query store →
      fail (.sql kind text) store)
    (returns : post (read store) store) :
    Yields condition me (query read) post fail store := by
  refine yields_transaction fails ?_ ?_
  · intro choice value next _ body
    cases body
    exact ⟨returns, fails⟩
  · intro choice exc _ body
    cases body

theorem yields_select {fits : Bool} {read : Store → α}
    (fails : ∀ kind text, fail (.sql kind text) store)
    (returns : fits = true → post (read store) store) :
    Yields condition me (select fits read) post fail store := by
  refine yields_transaction (fun kind text _ => fails kind text) ?_ ?_
  · intro choice value next _ body
    split at body
    · rename_i fit
      cases body
      exact ⟨returns fit, fun kind text _ => fails kind text⟩
    · cases body
  · intro choice exc _ body
    split at body
    · cases body
    · cases body
      exact fails _ _

theorem yields_command {label : Label}
    {body : Nat → Choice → Store → α × Store}
    (acts : ∀ choice, condition label choice store →
      post (body me choice store).1 (body me choice store).2) :
    Yields condition me (command label body) post fail store :=
  fun choice _ admitted => acts choice admitted

theorem yields_internal {body : Nat → Choice → Store → α × Store}
    (acts : ∀ choice, condition .internal choice store →
      post (body me choice store).1 (body me choice store).2) :
    Yields condition me (internal body) post fail store :=
  yields_command acts

theorem yields_withFinally {body : Py α} {final : Py Unit}
    (first : Yields condition me body
      (fun value later =>
        Yields condition me final (fun _ => post value) fail later)
      (fun exc later => Yields condition me final (fun _ => fail exc) fail
        later) store) :
    Yields condition me (withFinally body final) post fail store := by
  refine yields_bind (yields_tryCatch (yields_mono first ?_ ?_))
  · intro value later finishes
    exact yields_bind finishes
  · intro exc later finishes
    exact yields_bind finishes

end Yields

/-! ## Threads that have returned -/

section Answers

variable {α : Type}

def answerOf : Prog university (Except Exc α) → Option α
  | .ret (.ok answer) => some answer
  | _ => none

theorem answerOf_some {program : Prog university (Except Exc α)} {answer : α}
    (answered : answerOf program = some answer) :
    program = .ret (.ok answer) := by
  unfold answerOf at answered
  split at answered
  · rw [Option.some.inj answered]
  · cases answered

theorem finished_mem {config : Config university (Except Exc α)}
    (thread : Nat) {answer : α}
    (answered : config.threads[thread]?.bind answerOf = some answer) :
    Prog.ret (.ok answer) ∈ config.threads := by
  obtain ⟨program, found, answers⟩ := Option.bind_eq_some_iff.mp answered
  rw [← answerOf_some answers]
  exact List.mem_of_getElem? found

end Answers

/-! ## Executing one statement after the other -/

section Solo

variable {α β : Type} {me : Nat} {choices : Nat → Choice} {store : Store}

def rest (choices : Nat → Choice) : Nat → Choice :=
  fun index => choices (index + 1)

theorem solo_query {read : Store → α} {next : α → Py β}
    (done : (choices 0).call = .done) :
    Prog.solo me (query read >>= next).run choices store =
      Prog.solo me (next (read store)).run (rest choices) store := by
  change (if true = true then Prog.solo me
      ((Prog.ret (answered (choices 0).call (.ok (read store, store)))).bind
        (ExceptT.bindCont next)) (rest choices)
      (written (choices 0).call (.ok (read store, store)) store) else none) = _
  rw [done]
  rfl

end Solo

end SystemUni.Runtime.Rules
