import SystemUni.Accounts.Writers
import SystemUni.Routers.Frame

/-!
# Who gets through the dependencies

`get_current_user` and `require_roles`, one request at a time.  A token is
valid or not at the time the request reads off the clock.
-/

set_option autoImplicit false

namespace SystemUni.Routers.Access

open Interleaving
open SystemUni.Runtime.Errors
open SystemUni.Runtime.External
open SystemUni.Runtime.Statements
open SystemUni.Runtime.Rules
open SystemUni.Models.Rows
open SystemUni.Models.Schema
open SystemUni.Security.Auth
open SystemUni.Crud.User
open SystemUni.Accounts.Writers
open SystemUni.Routers.Api

/-- The credentials are a token of the account that is valid at this time. -/
def Authenticated (libraries : Libraries) (now : Time)
    (credentials : Option String) (user : User) (tables : Tables) : Prop :=
  ∃ token userId tokenVersion, credentials = some token ∧
    decodeAccessToken libraries now token = some (userId, tokenVersion) ∧
    tables.users.find? userId = some user ∧
    (user.tokenVersion : Int) = tokenVersion

/-- A request under this condition may find the account to be its user. -/
def Requester (libraries : Libraries) (condition : Condition university)
    (credentials : Option String) (user : User) (store : Store) : Prop :=
  ∃ label choice, condition label choice store ∧
    Authenticated libraries choice.now credentials user (committed store)

theorem Authenticated.loaded {libraries : Libraries} {now : Time}
    {credentials : Option String} {user : User} {tables : Tables}
    (authenticated : Authenticated libraries now credentials user tables) :
    tables.users.find? user.id = some user := by
  obtain ⟨token, userId, tokenVersion, _, _, found, _⟩ := authenticated
  rw [Relational.Table.key_of_find? found]
  exact found

theorem Requester.loaded {libraries : Libraries}
    {condition : Condition university} {credentials : Option String}
    {user : User} {store : Store}
    (requester : Requester libraries condition credentials user store) :
    (committed store).users.find? user.id = some user := by
  obtain ⟨label, choice, _, authenticated⟩ := requester
  exact authenticated.loaded

section Specifications

variable {libraries : Libraries} {condition : Condition university} {me : Nat}
  {credentials : Option String} {store : Store}

theorem yields_getCurrentUser :
    Yields condition me (getCurrentUser libraries credentials)
      (fun user later => later = store ∧
        Requester libraries condition credentials user store)
      (fun _ later => later = store) store := by
  cases credentials with
  | none => exact yields_throw rfl
  | some token =>
      refine yields_bind (yields_internal fun choice admitted => ?_)
      change Yields condition me (checkToken libraries choice.now token) _ _
        store
      unfold checkToken
      cases decoded : decodeAccessToken libraries choice.now token with
      | none => exact yields_throw rfl
      | some claims =>
          refine yields_bind (yields_query (fun _ _ _ => rfl) ?_)
          cases found : store.db.tables.users.find? claims.1 with
          | none => exact yields_throw rfl
          | some user =>
              by_cases version : (user.tokenVersion : Int) = claims.2
              · have accepted : admitUser (some user) claims.2 = .ok user :=
                  if_neg (not_not_intro version)
                simp only [accepted]
                exact yields_pure ⟨rfl, .internal, choice, admitted, token,
                  claims.1, claims.2, rfl, decoded, found, version⟩
              · have refused : admitUser (some user) claims.2 =
                    .error invalidToken := if_pos version
                simp only [refused]
                exact yields_throw rfl

theorem yields_requireRoles (allowedRoles : List UserRole) :
    Yields condition me (requireRoles libraries allowedRoles credentials)
      (fun user later => later = store ∧ user.role ∈ allowedRoles ∧
        Requester libraries condition credentials user store)
      (fun _ later => later = store) store := by
  refine yields_bind (yields_mono yields_getCurrentUser ?_ fun _ _ same => same)
  rintro user later ⟨rfl, requester⟩
  split
  · exact yields_throw rfl
  · rename_i allowed
    exact yields_pure ⟨rfl, by simpa using allowed, requester⟩

/-- `get_db` around a request, for a property that the row locks are not part
of. -/
theorem yields_getDb {α : Type} {request : Py α} {holds : Store → Prop}
    (releases : ∀ later, holds later → holds (later.releaseLocks me))
    (runs : Yields condition me request (fun _ => holds) (fun _ => holds)
      store) :
    Yields condition me (getDb request) (fun _ => holds) (fun _ => holds)
      store := by
  refine yields_withFinally (yields_tryCatch (yields_mono runs ?_ ?_))
  · intro value later kept
    exact yields_command fun _ _ => releases later kept
  · intro exc later kept
    refine yields_bind (yields_command fun _ _ => yields_throw ?_)
    exact yields_command fun _ _ => releases _ (releases later kept)

end Specifications

/-- A request of the API under a condition that allows it. -/
def Requests (libraries : Libraries) (settings : Settings)
    (allowed : Condition university → Option String → Store → Route → Prop)
    (condition : Condition university) (store : Store)
    (program : Prog university (Except Exc Unit)) : Prop :=
  ∃ credentials route,
    program = (route.serve libraries settings credentials).run ∧
    allowed condition credentials store route

/-- A run of such requests, one after the other. -/
abbrev Run (libraries : Libraries) (settings : Settings)
    (allowed : Condition university → Option String → Store → Route → Prop) :
    Store → Store → Prop :=
  Episodes (S := university) (Requests libraries settings allowed)

end SystemUni.Routers.Access
