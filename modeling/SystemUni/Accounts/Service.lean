import SystemUni.Accounts.Frame
import SystemUni.Accounts.Requests
import SystemUni.Workers.Frame

/-!
# The account service

All requests on accounts, each in its own session, and any program beside them
that leaves the users table alone.
-/

set_option autoImplicit false

namespace SystemUni.Accounts.Service

open Interleaving Relational
open SystemUni.Runtime.Errors
open SystemUni.Runtime.External
open SystemUni.Runtime.Statements
open SystemUni.Runtime.Rules
open SystemUni.Models.Rows
open SystemUni.Models.Changes
open SystemUni.Models.Schema
open SystemUni.Workers.Tasks
open SystemUni.Workers.Frame
open SystemUni.Security.Auth
open SystemUni.Crud.User
open SystemUni.Accounts.Discipline
open SystemUni.Accounts.Frame
open SystemUni.Accounts.Requests

def serve {α : Type} (request : Py α) : Py Unit :=
  getDb do
    let _ ← request
    return ()

/-- `update_current_user_endpoint`: the row that is written is the one the
token was checked against. -/
def updateCurrentUser (libraries : Libraries) (userUpdate : UserSelfUpdate)
    (credentials : Option String) : Py User := do
  let currentUser ← getCurrentUser libraries credentials
  updateUserMe libraries userUpdate currentUser

theorem leaves_serve {α ν : Type} {view : Store → ν} {request : Py α}
    (beside : BesideLocks view) (leaves : Leaves view request) :
    Leaves view (serve request) :=
  leaves_getDb beside (leaves_bind leaves fun _ => leaves_pure)

theorem leaves_updateCurrentUser {ν : Type} {view : Store → ν}
    (beside : BesideUsers view) {libraries : Libraries}
    (userUpdate : UserSelfUpdate) (credentials : Option String) :
    Leaves view (updateCurrentUser libraries userUpdate credentials) :=
  leaves_bind (leaves_getCurrentUser credentials)
    fun user => leaves_updateUserMe beside userUpdate user

/-- The part of the store that account requests work on. -/
def accounts (store : Store) : Table User.id × (Id → Option Nat) :=
  (users store, store.userLocks)

theorem accounts_beside : Beside accounts :=
  ⟨fun _ _ _ => rfl, fun _ _ _ => rfl⟩

inductive CredentialRequest (libraries : Libraries) (settings : Settings) :
    Py Unit → Prop where
  | updateUser (userUpdate : UserUpdate) (userId : Id) :
      CredentialRequest libraries settings
        (serve (updateUser libraries userUpdate userId))
  | updateUserMe (userUpdate : UserSelfUpdate)
      (credentials : Option String) :
      CredentialRequest libraries settings
        (serve (updateCurrentUser libraries userUpdate credentials))
  | loginUser (userLogin : UserLogin) :
      CredentialRequest libraries settings
        (serve (loginUser libraries settings userLogin))
  | getCurrentUser (credentials : Option String) :
      CredentialRequest libraries settings
        (serve (getCurrentUser libraries credentials))
  | other {α : Type} (program : Py α) (leaves : Leaves accounts program) :
      CredentialRequest libraries settings (serve program)

inductive AccountRequest (libraries : Libraries) (settings : Settings) :
    Py Unit → Prop where
  | registerUser (user : UserRegister) :
      AccountRequest libraries settings (serve (registerUser libraries user))
  | deleteUser (userId : Id) :
      AccountRequest libraries settings (serve (deleteUser userId))
  | credential (program : Py Unit)
      (request : CredentialRequest libraries settings program) :
      AccountRequest libraries settings program

def heartbeat (settings : Settings) : Child → Py Unit
  | .heartbeat claim execution => heartbeatLoop settings claim execution

def credentialSystem (libraries : Libraries) (settings : Settings) :
    System university (Except Exc Unit) where
  start _ := CredentialRequest libraries settings
  code := heartbeat settings

def accountSystem (libraries : Libraries) (settings : Settings) :
    System university (Except Exc Unit) where
  start _ := AccountRequest libraries settings
  code := heartbeat settings

section Obeys

variable {guarded : Prop} {me : Nat} {store : Store}
  {libraries : Libraries} {settings : Settings}

theorem runs_other {α : Type} {program : Py α}
    (leaves : Leaves accounts program)
    (invariant : AccountInvariant guarded store) :
    Runs (accountDiscipline guarded) me program (Kept guarded) (Kept guarded)
      store := by
  refine safe_of_keeps (accountDiscipline guarded) me accounts ?_ program.run
    leaves _ store invariant ?_
  · intro label choice before after same kept
    have sameUsers : users after = users before := congrArg Prod.fst same
    have sameLocks : after.userLocks = before.userLocks :=
      congrArg Prod.snd same
    have untouched : ∀ session, Untouched session before after := by
      intro session userId locked
      rw [sameLocks, sameUsers]
      exact ⟨locked, rfl⟩
    refine ⟨⟨?_, ?_⟩, ⟨?_, fun other _ => untouched other⟩, untouched me⟩
    · intro userId session locked
      rw [sameUsers]
      rw [sameLocks] at locked
      exact kept.locks userId session locked
    · rw [sameUsers]
      exact kept.admins
    · rw [sameUsers]
      exact .unchanged label
  · intro result later follows
    cases result with
    | ok value => exact follows.inv
    | error exc => exact follows.inv

theorem runs_serve {α : Type} {request : Py α}
    (runs : Runs (accountDiscipline guarded) me request
      (Kept guarded) (Kept guarded) store) :
    Runs (accountDiscipline guarded) me (serve request)
      (fun _ _ => True) (fun _ _ => True) store := by
  have discards : Runs (accountDiscipline guarded) me
      (do
        let _ ← request
        return ()) (Kept guarded) (Kept guarded) store :=
    runs_bind (runs_mono runs (fun _ _ kept => runs_pure _ kept)
      fun _ _ kept => kept)
  exact runs_mono (runs_getDb discards) (fun _ _ _ => trivial)
    fun _ _ _ => trivial

theorem runs_updateCurrentUser {userUpdate : UserSelfUpdate}
    {credentials : Option String}
    (invariant : AccountInvariant guarded store) :
    Runs (accountDiscipline guarded) me
      (updateCurrentUser libraries userUpdate credentials)
      (Kept guarded) (Kept guarded) store :=
  runs_bind (runs_mono
    (runs_other (leaves_getCurrentUser credentials) invariant)
    (fun _ _ kept => runs_updateUserMe kept) fun _ _ kept => kept)

theorem runs_credential {program : Py Unit}
    (request : CredentialRequest libraries settings program)
    (invariant : AccountInvariant guarded store) :
    Runs (accountDiscipline guarded) me program
      (fun _ _ => True) (fun _ _ => True) store := by
  cases request with
  | updateUser userUpdate userId =>
      exact runs_serve (runs_updateUser invariant)
  | updateUserMe userUpdate credentials =>
      exact runs_serve (runs_updateCurrentUser invariant)
  | loginUser userLogin =>
      exact runs_serve (runs_other (leaves_loginUser userLogin) invariant)
  | getCurrentUser credentials =>
      exact runs_serve
        (runs_other (leaves_getCurrentUser credentials) invariant)
  | other program leaves => exact runs_serve (runs_other leaves invariant)

theorem runs_account {program : Py Unit}
    (request : AccountRequest libraries settings program)
    (invariant : AccountInvariant guarded store) :
    Runs (accountDiscipline guarded) me program
      (fun _ _ => True) (fun _ _ => True) store := by
  cases request with
  | registerUser user => exact runs_serve (runs_registerUser invariant)
  | deleteUser userId => exact runs_serve (runs_deleteUser invariant)
  | credential program request => exact runs_credential request invariant

theorem runs_heartbeat {child : Child}
    (invariant : AccountInvariant guarded store) :
    Runs (accountDiscipline guarded) me (heartbeat settings child)
      (fun _ _ => True) (fun _ _ => True) store := by
  cases child with
  | heartbeat claim execution =>
      have leaves : Leaves accounts (heartbeatLoop settings claim execution) :=
        leaves_heartbeatLoop accounts_beside.toBesideJobs settings claim execution
      exact runs_mono (runs_other leaves invariant) (fun _ _ _ => trivial)
        fun _ _ _ => trivial

end Obeys

/-- Nothing is said of what a finished request answers. -/
abbrev anyAnswer : Except Exc Unit → Store → Prop :=
  @outcome university Exc Unit (fun _ _ => True) fun _ _ => True

theorem account_obeys (libraries : Libraries) (settings : Settings)
    (guarded : Prop) :
    Obeys (accountSystem libraries settings) (accountDiscipline guarded)
      anyAnswer where
  starts _ _ _ _ request := fun _ invariant _ => runs_account request invariant
  children _ _ _ _ := fun _ invariant _ => runs_heartbeat invariant

theorem credential_obeys (libraries : Libraries) (settings : Settings)
    (guarded : Prop) :
    Obeys (credentialSystem libraries settings) (accountDiscipline guarded)
      anyAnswer where
  starts _ _ _ _ request := fun _ invariant _ =>
    runs_credential request invariant
  children _ _ _ _ := fun _ invariant _ => runs_heartbeat invariant

end SystemUni.Accounts.Service
