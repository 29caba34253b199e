import SystemUni.Interleaving.Atomicity
import SystemUni.Runtime.Rules

/-!
# Statements with one effect

How the statements of the application change a view, and what a request may
still raise once it has.
-/

set_option autoImplicit false

namespace SystemUni.Runtime.Atomicity

open Interleaving
open SystemUni.Runtime.Errors
open SystemUni.Runtime.Statements
open SystemUni.Runtime.Rules

/-- Exceptions of the calls that are made under the condition, and of a row
that is gone when it is refreshed.  Of the errors of the database the handlers
take none of these for their own, unless any exception will do. -/
structure Aftermath (condition : Condition university) (fine : Exc → Prop) :
    Prop where
  calls : ∀ label choice store, condition label choice store →
    ∀ kind text, choice.call = .failed kind text ∨
      choice.call = .lost kind text → fine (.sql kind text)
  refresh : fine (.other "InvalidRequestError" "Could not refresh instance")
  unhandled : ∀ kind text, fine (.sql kind text) →
    kind = .operationalError ∨ ∀ exc, fine exc

theorem aftermath_any (condition : Condition university) :
    Aftermath condition fun _ => True where
  calls _ _ _ _ _ _ _ := trivial
  refresh := trivial
  unhandled _ _ _ := .inr fun _ => trivial

/-- Only connections fail: a call that fails, or whose answer is lost, raises
an `OperationalError`. -/
def connectionsOnly : Condition university := fun _ choice _ =>
  ∀ kind text, choice.call = .failed kind text ∨
    choice.call = .lost kind text → kind = .operationalError

/-- What a request may raise then, once it has committed. -/
inductive AfterCommit : Exc → Prop where
  | connection (text : String) : AfterCommit (.sql .operationalError text)
  | gone : AfterCommit
      (.other "InvalidRequestError" "Could not refresh instance")

theorem aftermath_connections : Aftermath connectionsOnly AfterCommit where
  calls label choice store admitted kind text fails := by
    rw [admitted kind text fails]
    exact .connection text
  refresh := .gone
  unhandled kind text fine := by
    cases fine
    exact .inl rfl

section Rules

variable {ν α : Type} {scope : Scope university ν} {post : α → Prop}
  {fail : Exc → Prop}

/-- The law lets a statement leave the store as it was. -/
def Idles (scope : Scope university ν) : Prop :=
  ∀ me label choice store, scope.law me label choice store store

theorem atomic_lockingTransaction (idles : Idles scope) {label : Label}
    {ready : Nat → Store → Bool}
    {body : Nat → Choice → Store → Except Exc (α × Store)}
    (lawful : ∀ me choice store value next,
      body me choice store = .ok (value, next) →
        scope.law me label choice store next)
    (returns : ∀ me choice store value next,
      body me choice store = .ok (value, next) → post value)
    (loses : ∀ choice store, scope.condition label choice store →
      ∀ kind text, choice.call = .lost kind text → fail (.sql kind text)) :
    Atomic scope (lockingTransaction label ready body) post fail := by
  intro me choice store _ admitted
  change scope.law me label choice store
      (written choice.call (body me choice store) store) ∧
    (scope.view (written choice.call (body me choice store) store) =
        scope.view store ∧ True ∨
      answersWith post fail (answered choice.call (body me choice store)))
  cases result : body me choice store with
  | error exc =>
      have same : written choice.call
          (Except.error exc : Except Exc (α × Store)) store = store := by
        cases choice.call <;> rfl
      rw [same]
      exact ⟨idles me label choice store, .inl ⟨rfl, trivial⟩⟩
  | ok pair =>
      obtain ⟨value, next⟩ := pair
      have obeys := lawful me choice store value next result
      cases call : choice.call with
      | failed kind text =>
          exact ⟨idles me label choice store, .inl ⟨rfl, trivial⟩⟩
      | done => exact ⟨obeys, .inr (returns me choice store value next result)⟩
      | lost kind text =>
          exact ⟨obeys, .inr (loses choice store admitted kind text call)⟩

theorem settles_statement (idles : Idles scope) {label : Label}
    {ready : Nat → Store → Bool}
    {body : Nat → Choice → Store → Except Exc (α × Store)}
    (kept : ∀ me choice store value next, scope.condition label choice store →
      body me choice store = .ok (value, next) →
        scope.law me label choice store next ∧
          scope.view next = scope.view store ∧ post value)
    (raises : ∀ exc, fail exc) :
    Settles scope (lockingTransaction label ready body) post fail := by
  intro me choice store _ admitted
  change scope.law me label choice store
      (written choice.call (body me choice store) store) ∧
    scope.view (written choice.call (body me choice store) store) =
      scope.view store ∧
    answersWith post fail (answered choice.call (body me choice store))
  have answers : answersWith post fail
      (answered choice.call (body me choice store)) := by
    cases result : body me choice store with
    | error exc => cases choice.call <;> exact raises _
    | ok pair =>
        cases choice.call with
        | done =>
            exact (kept me choice store pair.1 pair.2 admitted result).2.2
        | failed kind text => exact raises _
        | lost kind text => exact raises _
  rcases written_cases choice.call (body me choice store) store with
    same | ⟨value, next, result, same⟩
  · rw [same]
    exact ⟨idles me label choice store, rfl, answers⟩
  · rw [same]
    obtain ⟨lawful, sameView, _⟩ :=
      kept me choice store value next admitted result
    exact ⟨lawful, sameView, answers⟩

theorem settles_lockingTransaction (idles : Idles scope) {label : Label}
    {ready : Nat → Store → Bool}
    {body : Nat → Choice → Store → Except Exc (α × Store)}
    (kept : ∀ me choice store value next,
      body me choice store = .ok (value, next) →
        scope.law me label choice store next ∧
          scope.view next = scope.view store)
    (returns : ∀ value, post value) (raises : ∀ exc, fail exc) :
    Settles scope (lockingTransaction label ready body) post fail :=
  settles_statement idles
    (fun me choice store value next _ result =>
      ⟨(kept me choice store value next result).1,
        (kept me choice store value next result).2, returns value⟩) raises

/-- What a `SELECT` returns was in the store at a moment under the
condition. -/
theorem settles_select (idles : Idles scope) {fits : Bool}
    {read : Store → α}
    (returns : ∀ choice store, scope.condition .query choice store →
      post (read store)) (raises : ∀ exc, fail exc) :
    Settles scope (select fits read) post fail := by
  refine settles_statement idles ?_ raises
  intro me choice store value next admitted body
  split at body
  · cases body
    exact ⟨idles me .query choice store, rfl, returns choice store admitted⟩
  · cases body

theorem settles_reads (idles : Idles scope) {read : Store → α}
    (returns : ∀ choice store, scope.condition .query choice store →
      post (read store)) (raises : ∀ exc, fail exc) :
    Settles scope (query read) post fail := by
  refine settles_statement idles ?_ raises
  intro me choice store value next admitted body
  cases body
  exact ⟨idles me .query choice store, rfl, returns choice store admitted⟩

theorem settles_query (idles : Idles scope) {read : Store → α}
    (returns : ∀ store, post (read store))
    (fails : ∀ choice store, scope.condition .query choice store →
      ∀ kind text, choice.call = .failed kind text ∨
        choice.call = .lost kind text → fail (.sql kind text)) :
    Settles scope (query read) post fail := by
  intro me choice store _ admitted
  have same : written choice.call
      (Except.ok (read store, store) : Except Exc (α × Store)) store =
        store := by
    cases choice.call <;> rfl
  change scope.law me .query choice store
      (written choice.call (.ok (read store, store)) store) ∧
    scope.view (written choice.call (.ok (read store, store)) store) =
      scope.view store ∧
    answersWith post fail (answered choice.call (.ok (read store, store)))
  rw [same]
  refine ⟨idles me .query choice store, rfl, ?_⟩
  cases call : choice.call with
  | done => exact returns store
  | failed kind text => exact fails choice store admitted kind text (.inl call)
  | lost kind text => exact fails choice store admitted kind text (.inr call)

theorem settles_command {label : Label}
    {body : Nat → Choice → Store → α × Store}
    (lawful : ∀ me choice store,
      scope.law me label choice store (body me choice store).2)
    (same : ∀ me choice store,
      scope.view (body me choice store).2 = scope.view store)
    (returns : ∀ me choice store, post (body me choice store).1) :
    Settles scope (command label body) post fail :=
  fun me choice store _ _ =>
    ⟨lawful me choice store, same me choice store, returns me choice store⟩

/-- The `except` clauses around a commit: the exceptions of the aftermath they
pass on. -/
theorem atomic_handled {fine : Exc → Prop}
    (aftermath : Aftermath scope.condition fine) {body : Py α}
    {handler : Exc → Py α}
    (passes : ∀ {other : Exc → Prop}, Aftermath scope.condition other →
      ∀ exc, other exc →
        Settles scope (handler exc) (fun _ => True) other)
    (atomic : Atomic scope body (fun _ => True) fine) :
    Atomic scope (tryCatch body handler) (fun _ => True) fine := by
  refine atomic_tryCatch ?_ ?_
  · refine Prog.atomic_mono body.run atomic ?_
    intro answer holds
    cases answer with
    | ok value => trivial
    | error exc => exact passes aftermath exc holds
  · intro exc
    exact (passes (aftermath_any scope.condition) exc trivial).atomic _

/-- `try … finally …` around a request, where the last step settles. -/
theorem atomic_withFinally {fine : Exc → Prop} {body : Py α}
    {final : Py Unit}
    (settles : Settles scope final (fun _ => True) fine)
    (atomic : Atomic scope body (fun _ => True) fine) :
    Atomic scope (withFinally body final) (fun _ => True) fine := by
  have raises (answers : α → Prop) (exc : Exc) : Atomic scope (do
      final
      throw exc : Py α) answers fine :=
    atomic_bind (settles.atomic _) fun _ => atomic_throw
  have returns (value : α) : Settles scope (do
      final
      return value : Py α) (fun _ => True) fine :=
    settles_bind (settles_mono settles (fun _ _ => settles_pure trivial)
      fun _ holds => holds)
  refine atomic_bind (atomic_tryCatch ?_ (raises _)) fun value =>
    (returns value).atomic _
  refine Prog.atomic_mono body.run atomic ?_
  intro answer holds
  cases answer with
  | ok value => exact returns value
  | error exc =>
      exact settles_bind (settles_mono settles
        (fun _ _ => settles_throw holds) fun _ holds => holds)

end Rules

end SystemUni.Runtime.Atomicity
