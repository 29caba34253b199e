import SystemUni.Accounts.Frame
import SystemUni.Crud.Student
import SystemUni.Interleaving.Preservation

/-!
# The statements of student requests

One walk through every request on students, for any law that admits its
statements.  Which views a request leaves alone, which properties it keeps and
which statements it never executes are instances.
-/

set_option autoImplicit false

namespace SystemUni.Students.Laws

open Interleaving
open SystemUni.Runtime.Errors
open SystemUni.Runtime.External
open SystemUni.Runtime.Statements
open SystemUni.Runtime.Rules
open SystemUni.Models.Rows
open SystemUni.Models.Changes
open SystemUni.Models.Schema
open SystemUni.Crud.User
open SystemUni.Crud.Deletion
open SystemUni.Crud.Student

/-! ## Laws and the statements they admit -/

/-- Statements that only look. -/
structure Reading (law : Law university) : Prop where
  query : ∀ me choice store, law me .query choice store store
  internal : ∀ me choice store, law me .internal choice store store

/-- Row locks may be taken and released. -/
structure Locking (law : Law university) : Prop extends Reading law where
  lock : ∀ me choice store userId,
    law me (.account (.lockAdmin userId)) choice store store ∧
      law me (.account (.lockAdmin userId)) choice store (store.lock me userId)
  release : ∀ me choice (store : Store),
    law me (.account .rollback) choice store (store.releaseLocks me)

/-- The cache may lose entries at the end of a write. -/
structure Invalidating (law : Law university) : Prop extends Locking law where
  invalidate : ∀ me choice (store : Store) studentId mark
    (cache : Id → Option CacheEntry),
    (∀ other entry, cache other = some entry →
      store.cache other = some entry) →
    law me (.student (.cacheDelete studentId mark)) choice store
      { store with
        cache := cache
        returned := (studentId, mark) :: store.returned }

/-- Changed student rows may be committed. -/
structure Updating (law : Law university) : Prop extends
    Invalidating law where
  update : ∀ me (choice : Choice) (store : Store) student change carried,
    law me (.student (.updateStudent student change carried)) choice store
      (written choice.call (store.commit (flushStudent student change)) store)

/-- Deletions of students may be committed. -/
structure Deleting (law : Law university) : Prop extends
    Invalidating law where
  deleteStudent : ∀ me (choice : Choice) (store : Store) student enrollments,
    law me (.student (.deleteStudent student)) choice store
      (written choice.call
        (store.commit (flushDeleteStudent student enrollments)) store)

/-- Deletions of users may be committed. -/
structure Removing (law : Law university) : Prop extends Locking law where
  deleteUser : ∀ me (choice : Choice) (store : Store) user dependent,
    law me (.account (.deleteUser user dependent)) choice store
      (written choice.call ((store.releaseLocks me).commit
        (flushDeleteUser user.id dependent)) store)

section Lawful

variable {α : Type} {law : Law university}

theorem lawful_lockingTransaction {label : Label} {ready : Nat → Store → Bool}
    {body : Nat → Choice → Store → Except Exc (α × Store)}
    (lawful : ∀ me choice store, law me label choice store
      (written choice.call (body me choice store) store)) :
    Lawful law (lockingTransaction label ready body) :=
  fun me choice store _ => ⟨lawful me choice store, trivial⟩

theorem lawful_command {label : Label}
    {body : Nat → Choice → Store → α × Store}
    (lawful : ∀ me choice store, law me label choice store
      (body me choice store).2) : Lawful law (command label body) :=
  fun me choice store _ => ⟨lawful me choice store, trivial⟩

theorem lawful_withFinally {body : Py α} {final : Py Unit}
    (first : Lawful law body) (last : Lawful law final) :
    Lawful law (withFinally body final) :=
  lawful_bind
    (lawful_tryCatch first fun _ => lawful_bind last fun _ => lawful_throw)
    fun _ => lawful_bind last fun _ => lawful_pure

/-! ## Reads -/

theorem written_read (call : CallOutcome) (value : α) (store : Store) :
    written call (.ok (value, store)) store = store := by
  cases call <;> rfl

theorem written_refused (call : CallOutcome) (exc : Exc) (store : Store) :
    written call (.error exc : Except Exc (α × Store)) store = store := by
  cases call <;> rfl

section Reads

variable (reading : Reading law)

include reading

theorem lawful_query {read : Store → α} : Lawful law (query read) := by
  refine lawful_lockingTransaction fun me choice store => ?_
  rw [written_read]
  exact reading.query me choice store

theorem lawful_select {fits : Bool} {read : Store → α} :
    Lawful law (select fits read) := by
  refine lawful_lockingTransaction fun me choice store => ?_
  have still : written choice.call
      (if fits then .ok (read store, store)
        else .error (.sql .dataError SqlError.dataError.typeName)) store =
      store := by
    split
    · exact written_read _ _ _
    · exact written_refused _ _ _
  rw [still]
  exact reading.query me choice store

theorem lawful_observe {observe : Nat → Choice → Store → α} :
    Lawful law
      (internal fun me choice store => (observe me choice store, store)) :=
  lawful_command reading.internal

theorem lawful_refreshStudent (studentId : Id) :
    Lawful law (refreshStudent studentId) := by
  refine lawful_bind (lawful_query reading) fun found => ?_
  cases found with
  | none => exact lawful_throw
  | some row => exact lawful_pure

theorem lawful_refreshUser (userId : Id) : Lawful law (refreshUser userId) := by
  refine lawful_bind (lawful_query reading) fun found => ?_
  cases found with
  | none => exact lawful_throw
  | some row => exact lawful_pure

theorem lawful_readStudent
    (fills : ∀ me choice store studentId response
      (cache : Id → Option CacheEntry),
      law me (.student (.cacheSet studentId response)) choice store
        { store with cache := cache })
    (libraries : Libraries) (studentId : Id) (user : User) :
    Lawful law (readStudent libraries studentId user) := by
  refine lawful_bind (lawful_observe reading) fun redis => ?_
  simp only
  split
  · exact lawful_throw
  refine lawful_bind ?_ fun cached => ?_
  · unfold lookUpStudent
    split
    · exact lawful_observe reading
    · exact lawful_pure
  · cases cached with
    | some response => exact lawful_pure
    | none =>
        refine lawful_bind (lawful_select reading) fun student => ?_
        cases student with
        | none => exact lawful_throw
        | some student =>
            simp only [modelValidate_bind]
            split
            · split
              · exact lawful_bind
                  (lawful_command fun me choice store => fills _ _ _ _ _ _)
                  fun _ => lawful_pure
              · exact lawful_pure
            · exact lawful_throw

end Reads

/-! ## Sessions -/

section Sessions

variable (locking : Locking law)

include locking

theorem lawful_rollback : Lawful law rollback :=
  lawful_command locking.release

theorem lawful_reraise {exc : Exc} :
    Lawful law (do
      rollback
      throw exc : Py α) :=
  lawful_bind (lawful_rollback locking) fun _ => lawful_throw

theorem lawful_getDb {request : Py α} (lawful : Lawful law request) :
    Lawful law (getDb request) :=
  lawful_withFinally
    (lawful_tryCatch lawful fun _ => lawful_reraise locking)
    (lawful_rollback locking)

theorem lawful_lockAdmins (ids : List Id) : Lawful law (lockAdmins ids) := by
  induction ids with
  | nil => exact lawful_pure
  | cons userId rest inductionHypothesis =>
      refine lawful_bind (lawful_lockingTransaction fun me choice store => ?_)
        fun _ => lawful_bind inductionHypothesis fun _ => lawful_pure
      obtain ⟨kept, locked⟩ := locking.lock me choice store userId
      rcases written_cases choice.call
        (if (store.db.tables.users.find? userId).any isAdmin then
            .ok (true, store.lock me userId)
          else .ok (false, store)) store with
        same | ⟨value, next, result, same⟩
      · rw [same]
        exact kept
      · rw [same]
        split at result
        · cases result
          exact locked
        · cases result
          exact kept

theorem lawful_ensureAdminRemains (user : User)
    (nextRole : Option UserRole) :
    Lawful law (ensureAdminRemains user nextRole) := by
  unfold ensureAdminRemains
  split
  · exact lawful_pure
  · refine lawful_bind (lawful_query locking.toReading) fun snapshot => ?_
    refine lawful_bind (lawful_lockAdmins locking snapshot) fun adminIds => ?_
    split
    · exact lawful_throw
    · exact lawful_pure

theorem lawful_handled {handler : Exc → Py α} (handles : Handles handler)
    (exc : Exc) : Lawful law (handler exc) := by
  rcases handles exc with same | ⟨_, _, reported, _, _, same⟩
  · rw [same]
    exact lawful_throw
  · rw [same]
    exact lawful_reraise locking

end Sessions

theorem lawful_invalidate (invalidating : Invalidating law) (studentId : Id)
    (mark : WriteMark) :
    Lawful law (invalidateStudentCache studentId mark) := by
  refine lawful_command fun me choice store =>
    invalidating.invalidate me choice store studentId mark _ ?_
  intro other entry found
  split at found
  · simp only at found
    split at found
    · cases found
    · exact found
  · exact found

/-! ## Writes -/

section Updates

variable (updating : Updating law)

include updating

theorem lawful_commitStudent (student : Student) (change : StudentChange)
    (carried : Option Nat) :
    Lawful law (commitStudent student change carried) :=
  lawful_lockingTransaction fun me choice store =>
    updating.update me choice store student change carried

theorem lawful_updateStudent (studentUpdate : StudentUpdate) (studentId : Id) :
    Lawful law (updateStudent studentUpdate studentId) := by
  have locking := updating.toLocking
  refine lawful_bind (lawful_query locking.toReading) fun found => ?_
  cases found with
  | none => exact lawful_throw
  | some student =>
      simp only
      split
      · exact lawful_throw
      refine lawful_bind (lawful_tryCatch ?_
        (lawful_handled locking handles_studentErrors)) fun updated => ?_
      · exact lawful_bind (lawful_commitStudent updating student _ _)
          fun _ => lawful_refreshStudent locking.toReading student.id
      · exact lawful_bind
          (lawful_invalidate updating.toInvalidating studentId _)
          fun _ => lawful_pure

theorem lawful_linkStudentToUser (studentId userId : Id) :
    Lawful law (linkStudentToUser studentId userId) := by
  have locking := updating.toLocking
  have reading := locking.toReading
  refine lawful_bind (lawful_query reading) fun found => ?_
  cases found with
  | none => exact lawful_throw
  | some student =>
      refine lawful_bind (lawful_query reading) fun user => ?_
      cases user with
      | none => exact lawful_throw
      | some user =>
          simp only
          split
          · exact lawful_throw
          refine lawful_bind (lawful_query reading) fun linked => ?_
          split
          · exact lawful_throw
          refine lawful_bind (lawful_tryCatch ?_
            (lawful_handled locking handles_linkErrors)) fun updated => ?_
          · refine lawful_bind (lawful_commitStudent updating student _ _)
              fun _ => ?_
            exact lawful_bind (lawful_refreshStudent reading student.id)
              fun _ => lawful_bind (lawful_refreshUser reading user.id)
                fun _ => lawful_pure
          · exact lawful_bind
              (lawful_invalidate updating.toInvalidating updated.id _)
              fun _ => lawful_pure

end Updates

theorem lawful_deleteStudent (deleting : Deleting law) (studentId : Id) :
    Lawful law (deleteStudent studentId) := by
  have locking := deleting.toLocking
  refine lawful_bind ?_ fun _ => lawful_bind
    (lawful_invalidate deleting.toInvalidating studentId .deleted)
    fun _ => lawful_pure
  refine lawful_bind (lawful_query locking.toReading) fun found => ?_
  cases found with
  | none => exact lawful_throw
  | some student =>
      refine lawful_bind (lawful_tryCatch ?_
        (lawful_handled locking (handles_referenced _))) fun _ => lawful_pure
      exact lawful_bind (lawful_query locking.toReading) fun enrollments =>
        lawful_lockingTransaction fun me choice store =>
          deleting.deleteStudent me choice store student enrollments

theorem lawful_deleteUser (removing : Removing law) (userId : Id) :
    Lawful law (deleteUser userId) := by
  have locking := removing.toLocking
  refine lawful_bind (lawful_query locking.toReading) fun found => ?_
  cases found with
  | none => exact lawful_throw
  | some user =>
      refine lawful_bind (lawful_ensureAdminRemains locking user none)
        fun _ => ?_
      refine lawful_bind (lawful_tryCatch ?_
        (lawful_handled locking (handles_referenced userReferenced))) fun _ => lawful_pure
      exact lawful_bind (lawful_query locking.toReading) fun dependent =>
        lawful_lockingTransaction fun me choice store =>
          removing.deleteUser me choice store user dependent

end Lawful

end SystemUni.Students.Laws
