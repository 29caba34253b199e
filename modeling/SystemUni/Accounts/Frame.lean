import SystemUni.Runtime.Rules
import SystemUni.Crud.User

/-!
# What account requests leave alone

The guard of the last administrator writes nothing but row locks, and a saved
user row changes nothing that is not computed from the users table.
-/

set_option autoImplicit false

namespace SystemUni.Accounts.Frame

open Interleaving
open SystemUni.Runtime.Errors
open SystemUni.Runtime.External
open SystemUni.Runtime.Statements
open SystemUni.Runtime.Rules
open SystemUni.Models.Rows
open SystemUni.Models.Changes
open SystemUni.Models.Schema
open SystemUni.Security.Auth
open SystemUni.Crud.User

/-- A view of the store that the row locks are not part of. -/
structure BesideLocks {ν : Type} (view : Store → ν) : Prop where
  lock : ∀ (store : Store) (session : Nat) (userId : Id),
    view (store.lock session userId) = view store
  release : ∀ (store : Store) (session : Nat),
    view (store.releaseLocks session) = view store

/-- A view of the store that no saved user row shows in. -/
structure BesideUsers {ν : Type} (view : Store → ν) : Prop
    extends BesideLocks view where
  saved : ∀ (store : Store) (userId : Id) (change : UserChange)
    (db : Database), flushUser userId change store.db.tables = .ok db.tables →
      view (store.setTables db) = view store

section Leaves

variable {ν α : Type} {view : Store → ν} {libraries : Libraries}
  {settings : Settings}

theorem leaves_getCurrentUser (credentials : Option String) :
    Leaves view (getCurrentUser libraries credentials) := by
  cases credentials with
  | none => exact leaves_throw
  | some token =>
      refine leaves_bind leaves_observe fun time => ?_
      unfold checkToken
      cases decodeAccessToken libraries time token with
      | none => exact leaves_throw
      | some decoded =>
          refine leaves_bind leaves_query fun user => ?_
          cases admitUser user decoded.2 with
          | error exc => exact leaves_throw
          | ok user => exact leaves_pure

theorem leaves_loginUser (userLogin : UserLogin) :
    Leaves view (loginUser libraries settings userLogin) := by
  refine leaves_bind leaves_query fun user => ?_
  cases user with
  | none => exact leaves_throw
  | some user =>
      simp only
      split
      · exact leaves_throw
      · exact leaves_throw
      · exact leaves_bind leaves_observe fun _ => leaves_pure

theorem leaves_refreshUser (userId : Id) :
    Leaves view (refreshUser userId) := by
  refine leaves_bind leaves_query fun found => ?_
  cases found with
  | none => exact leaves_throw
  | some row => exact leaves_pure

theorem leaves_hashOptional (password : Option String) :
    Leaves view (hashOptional libraries password) := by
  cases password with
  | none => exact leaves_pure
  | some password =>
      exact leaves_bind (leaves_bind leaves_observe fun _ => leaves_pure)
        fun _ => leaves_pure

section Locks

variable (beside : BesideLocks view)

include beside

theorem leaves_rollback : Leaves view rollback :=
  leaves_command fun me _ store => beside.release store me

theorem leaves_rolledBack {exc : Exc} :
    Leaves view (do
      rollback
      throw exc : Py α) :=
  leaves_bind (leaves_rollback beside) fun _ => leaves_throw

theorem leaves_handled {handler : Exc → Py α} (handles : Handles handler)
    (exc : Exc) : Leaves view (handler exc) := by
  rcases handles exc with same | ⟨_, _, reported, _, _, same⟩
  · rw [same]
    exact leaves_throw
  · rw [same]
    exact leaves_rolledBack beside

theorem leaves_getDb {request : Py α} (leaves : Leaves view request) :
    Leaves view (getDb request) :=
  leaves_withFinally
    (leaves_tryCatch leaves fun _ => leaves_rolledBack beside)
    (leaves_rollback beside)

theorem leaves_lockAdmins (ids : List Id) : Leaves view (lockAdmins ids) := by
  induction ids with
  | nil => exact leaves_pure
  | cons userId rest inductionHypothesis =>
      refine leaves_bind ?_ fun _ => leaves_bind inductionHypothesis
        fun _ => leaves_pure
      refine leaves_lockingTransaction ?_
      intro me choice store locked next body
      split at body
      · cases body
        exact beside.lock store me userId
      · cases body
        rfl

theorem leaves_ensureAdminRemains (user : User)
    (nextRole : Option UserRole) :
    Leaves view (ensureAdminRemains user nextRole) := by
  unfold ensureAdminRemains
  split
  · exact leaves_pure
  · refine leaves_bind leaves_query fun snapshot => ?_
    refine leaves_bind (leaves_lockAdmins beside snapshot) fun adminIds => ?_
    split
    · exact leaves_throw
    · exact leaves_pure

end Locks

section Users

variable (beside : BesideUsers view)

include beside

theorem leaves_commitUser (read : User) (change : UserChange) :
    Leaves view (commitUser read change) := by
  refine leaves_lockingTransaction ?_
  intro me choice store done next body
  obtain ⟨db, flushed, rfl⟩ := Store.commit_ok body
  calc
    view ((store.releaseLocks me).setTables db) =
        view (store.releaseLocks me) :=
          beside.saved (store.releaseLocks me) read.id change db flushed
    _ = view store := beside.release store me

theorem leaves_saveUser (user : User) (change : UserChange) :
    Leaves view
      (tryCatch
        (do
          commitUser user change
          refreshUser user.id)
        handleUserErrors) :=
  leaves_tryCatch
    (leaves_bind (leaves_commitUser beside user change)
      fun _ => leaves_refreshUser user.id)
    (leaves_handled beside.toBesideLocks handles_userErrors)

theorem leaves_updateUser (userUpdate : UserUpdate) (userId : Id) :
    Leaves view (updateUser libraries userUpdate userId) := by
  refine leaves_bind leaves_query fun found => ?_
  cases found with
  | none => exact leaves_throw
  | some user =>
      exact leaves_bind (leaves_ensureAdminRemains beside.toBesideLocks user _)
        fun _ => leaves_bind (leaves_hashOptional _)
          fun _ => leaves_saveUser beside user _

theorem leaves_updateUserMe (userUpdate : UserSelfUpdate)
    (currentUser : User) :
    Leaves view (updateUserMe libraries userUpdate currentUser) :=
  leaves_bind (leaves_hashOptional _)
    fun _ => leaves_saveUser beside currentUser _

end Users

end Leaves

/-! ## Sessions -/

section Session

variable {D : Discipline university} {me : Nat} {store : Store} {α : Type}

/-- `get_db` around a request, for a discipline that rolling back keeps. -/
theorem runs_session {request : Py α} (answers : α → Prop)
    (rolls : ∀ later, D.inv later →
      Runs D me rollback (fun _ => D.inv) (fun _ => D.inv) later)
    (runs : Runs D me request (fun value later => D.inv later ∧ answers value)
      (fun _ => D.inv) store) :
    Runs D me (getDb request)
      (fun value later => D.inv later ∧ answers value) (fun _ => D.inv)
      store := by
  refine runs_withFinally (runs_tryCatch (runs_mono runs ?_ ?_))
  · intro value later kept
    exact runs_mono (rolls later kept.1)
      (fun _ _ rolledBack => ⟨rolledBack, kept.2⟩) fun _ _ failed => failed
  · intro exc later kept
    refine runs_bind (runs_mono (rolls later kept) ?_ ?_)
    · exact fun _ last rolledBack => runs_throw exc (rolls last rolledBack)
    · exact fun _ last failed => rolls last failed

end Session

end SystemUni.Accounts.Frame
