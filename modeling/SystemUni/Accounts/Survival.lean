import SystemUni.Interleaving.Preservation
import SystemUni.Routers.Conformance

/-!
# Sessions survive

As long as no request asks for another password or role of an account or for
its deletion, the account keeps its role, its password and its token version,
whatever else happens; so its tokens are accepted until they expire.
-/

set_option autoImplicit false

namespace SystemUni.Accounts.Survival

open Interleaving Relational
open SystemUni.Runtime.Errors
open SystemUni.Runtime.External
open SystemUni.Runtime.Statements
open SystemUni.Runtime.Rules
open SystemUni.Models.Rows
open SystemUni.Models.Jobs
open SystemUni.Models.Schema
open SystemUni.Security.Auth
open SystemUni.Crud.User
open SystemUni.Crud.Rows
open SystemUni.Crud.Student
open SystemUni.Crud.RegistrarRows
open SystemUni.Routers.Reports
open SystemUni.Routers.Api
open SystemUni.Routers.Access
open SystemUni.Routers.Frame
open SystemUni.Routers.Privilege
open SystemUni.Routers.Effects
open SystemUni.Routers.Conformance
open SystemUni.Accounts.Frame
open SystemUni.Accounts.Writers
open SystemUni.Accounts.Service
open SystemUni.Workers.Runner
open SystemUni.Workers.Frame
open SystemUni.Cli
open SystemUni.Application

/-! ## What ends a session -/

/-- The request asks for another password or role of the account, or for its
deletion. -/
def Revokes (libraries : Libraries) (userId : Id)
    (credentials : Option String) : Route → Prop
  | .user (.update update target) => target = userId ∧
      (update.password.isSome = true ∨ update.role.isSome = true)
  | .user (.delete target) => target = userId
  | .updateCurrentUser update => update.password.isSome = true ∧
      ∃ now token tokenVersion, credentials = some token ∧
        decodeAccessToken libraries now token = some (userId, tokenVersion)
  | _ => False

/-- What may be started otherwise. -/
inductive Sparing (libraries : Libraries) (settings : Settings)
    (userId : Id) : Prog university (Except Exc Unit) → Prop where
  | request (credentials : Option String) (route : Route)
      (spares : ¬ Revokes libraries userId credentials route) :
      Sparing libraries settings userId
        (route.serve libraries settings credentials).run
  | reconcileOnce :
      Sparing libraries settings userId (silent reconcileOnce).run
  | runOnce :
      Sparing libraries settings userId (silent (runOnce settings)).run
  | createAdmin (environment : Environment) (arguments : AdminArguments) :
      Sparing libraries settings userId
        (silent (createAdmin libraries environment arguments)).run

def sparing (libraries : Libraries) (settings : Settings) (userId : Id) :
    System university (Except Exc Unit) where
  start _ := Sparing libraries settings userId
  code := heartbeat settings

/-- What a session depends on. -/
structure Standing where
  role : UserRole
  passwordHash : String
  tokenVersion : Nat
  deriving DecidableEq

def standing (user : User) : Standing :=
  ⟨user.role, user.passwordHash, user.tokenVersion⟩

def Stands (userId : Id) (kept : Standing) (tables : Tables) : Prop :=
  (tables.users.find? userId).map standing = some kept

instance (userId : Id) (kept : Standing) (tables : Tables) :
    Decidable (Stands userId kept tables) :=
  inferInstanceAs (Decidable (_ = _))

/-! ## Effects on other tables -/

section Effects

variable {seen : Tables → Prop} {ρ : Type} {key : ρ → Id}
  {before after : Tables} {userId : Id} {kept : Standing}

/-- The accounts are kept elsewhere. -/
def BesideAccounts (access : TableAccess key) : Prop :=
  ∀ rows tables, (access.set rows tables).users = tables.users

theorem users_of_edits (access : TableAccess key) {rowId : Id}
    {value : Option ρ} (beside : BesideAccounts access)
    (edits : Edits access rowId value before after) :
    after.users = before.users := by
  obtain ⟨rows, rfl, _⟩ := edits
  exact beside rows before

theorem users_of_creates (access : TableAccess key) {isRow : ρ → Prop}
    (beside : BesideAccounts access)
    (creates : Creates access isRow before after) :
    after.users = before.users := by
  obtain ⟨_, _, _, edits⟩ := creates
  exact users_of_edits access beside edits

theorem users_of_updates (access : TableAccess key) {rowId : Id}
    {merge : ρ → ρ → ρ} (beside : BesideAccounts access)
    (updates : Updates seen access rowId merge before after) :
    after.users = before.users := by
  obtain ⟨_, _, _, _, _, _, edits⟩ := updates
  exact users_of_edits access beside edits

theorem users_of_saves {studentId : Id} {condition : Student → Prop}
    {merge : Student → Student → Student}
    (saves : Saves seen studentId condition merge before after) :
    after.users = before.users := by
  obtain ⟨_, _, _, _, _, _, _, _, edits⟩ := saves
  exact users_of_edits students (fun _ _ => rfl) edits

theorem users_of_table {ι υ : Type} (access : TableAccess key)
    (beside : BesideAccounts access) {isRow : ι → ρ → Prop}
    {merge : υ → ρ → ρ → ρ} {route : TableRoute ι υ}
    (effect : TableEffects.effect
      { create := fun payload => Creates access (isRow payload)
        update := fun update rowId =>
          Updates seen access rowId (merge update)
        delete := fun rowId => Deletes access rowId } route before after) :
    after.users = before.users := by
  cases route with
  | create payload => exact users_of_creates access beside effect
  | read rowId => exact effect.elim
  | list skip limit => exact effect.elim
  | update payload rowId => exact users_of_updates access beside effect
  | delete rowId => exact users_of_edits access beside effect

theorem users_of_students {route : TableRoute StudentCreate StudentUpdate}
    (effect : (studentEffects seen).effect route before after) :
    after.users = before.users := by
  cases route with
  | create payload =>
      exact users_of_creates students (fun _ _ => rfl) effect
  | read rowId => exact effect.elim
  | list skip limit => exact effect.elim
  | update payload rowId => exact users_of_saves effect
  | delete rowId => exact users_of_edits students (fun _ _ => rfl) effect

/-- Deleting a department also writes its courses. -/
theorem users_of_departments
    {route : TableRoute DepartmentCreate DepartmentUpdate}
    (effect : (departmentEffects seen).effect route before after) :
    after.users = before.users := by
  cases route with
  | create payload =>
      exact users_of_creates departments (fun _ _ => rfl) effect
  | read rowId => exact effect.elim
  | list skip limit => exact effect.elim
  | update payload rowId =>
      exact users_of_updates departments (fun _ _ => rfl) effect
  | delete rowId =>
      obtain ⟨detached, _, _, _, ⟨rows, rfl⟩, deletes⟩ := effect
      have same : after.users = (courses.set rows before).users :=
        users_of_edits departments (fun _ _ => rfl) deletes
      exact same

/-! ## Effects on accounts -/

theorem stands_other {rowId : Id} {value : Option User}
    (stands : Stands userId kept before)
    (edits : Edits users rowId value before after) (other : userId ≠ rowId) :
    Stands userId kept after := by
  obtain ⟨rows, rfl, sets⟩ := edits
  have same : rows.find? userId = before.users.find? userId :=
    sets.find?_other other
  exact (congrArg (Option.map standing) same).trans stands

theorem stands_creates {isRow : User → Prop}
    (stands : Stands userId kept before)
    (creates : Creates users isRow before after) :
    Stands userId kept after := by
  obtain ⟨row, _, fresh, edits⟩ := creates
  refine stands_other stands edits fun same => ?_
  subst same
  have absent : before.users.find? row.id = none := fresh
  simp [Stands, absent] at stands

theorem stands_merges {libraries : Libraries} {rowId : Id}
    {username email : Option String} {loaded old : User}
    (stands : Stands userId kept before)
    (found : before.users.find? rowId = some old)
    (edits : Edits users rowId (some (userMerge libraries username email none
      none loaded old)) before after) :
    Stands userId kept after := by
  by_cases same : userId = rowId
  · subst same
    obtain ⟨rows, rfl, sets⟩ := edits
    have now : rows.find? userId = _ := sets.find?_self
    have then_ : (before.users.find? userId).map standing = some kept := stands
    rw [found] at then_
    exact (congrArg (Option.map standing) now).trans then_
  · exact stands_other stands edits same

theorem hashes_none {libraries : Libraries} {passwordHash : Option String}
    (hashes : Hashes libraries none passwordHash) : passwordHash = none := by
  obtain ⟨_, rfl⟩ := hashes
  rfl

theorem stands_users {libraries : Libraries}
    {credentials : Option String} {route : TableRoute Empty UserUpdate}
    (spares : ¬ Revokes libraries userId credentials (.user route))
    (stands : Stands userId kept before)
    (effect : (userEffects seen libraries).effect route before after) :
    Stands userId kept after := by
  cases route with
  | create payload => exact nomatch payload
  | read rowId => exact effect.elim
  | list skip limit => exact effect.elim
  | update update rowId =>
      obtain ⟨passwordHash, hashes, _, loaded, old, _, _, found, edits⟩ :=
        effect
      by_cases same : userId = rowId
      · have neither : ¬ (update.password.isSome = true ∨
            update.role.isSome = true) := fun given =>
          spares ⟨same.symm, given⟩
        have noPassword : update.password = none := by
          simpa using fun given => neither (.inl given)
        have noRole : update.role = none := by
          simpa using fun given => neither (.inr given)
        rw [noPassword] at hashes
        rw [noRole, hashes_none hashes] at edits
        exact stands_merges stands found edits
      · exact stands_other stands edits same
  | delete rowId =>
      obtain ⟨unlinked, unlinks, deletes⟩ := effect
      have sameUsers : unlinked.users = before.users := by
        rcases unlinks with rfl | ⟨_, saves⟩
        · rfl
        · exact users_of_saves saves
      have there : Stands userId kept unlinked := by
        rw [Stands, sameUsers]
        exact stands
      exact stands_other there deletes fun same => spares same.symm

/-- Whatever the moments are at which the request is executed. -/
theorem stands_effect {moment : Time → Tables → Prop} {libraries : Libraries}
    {credentials : Option String} {route : Route}
    (spares : ¬ Revokes libraries userId credentials route)
    {before after : Tables × Queue} (stands : Stands userId kept before.1)
    (effect : Effect moment libraries credentials route before after) :
    Stands userId kept after.1 := by
  have beside (same : after.1.users = before.1.users) :
      Stands userId kept after.1 := by
    rw [Stands, same]
    exact stands
  cases route with
  | healthCheck => exact effect.elim
  | getTranscript studentId => exact effect.elim
  | exportTranscriptAsync studentId =>
      exact beside (congrArg Tables.users effect.1)
  | getJobStatus jobId => exact effect.elim
  | college route =>
      exact beside (users_of_table colleges (fun _ _ => rfl) effect.1)
  | course route =>
      exact beside (users_of_table courses (fun _ _ => rfl) effect.1)
  | courseOffering route =>
      exact beside (users_of_table courseOfferings (fun _ _ => rfl) effect.1)
  | department route => exact beside (users_of_departments effect.1)
  | teacher route =>
      exact beside (users_of_table teachers (fun _ _ => rfl) effect.1)
  | student route => exact beside (users_of_students effect.1)
  | linkStudentUser studentId userId => exact beside (users_of_saves effect.1)
  | enrollment route =>
      exact beside (users_of_table enrollments (fun _ _ => rfl) effect.1)
  | courseSchedule route =>
      exact beside (users_of_table courseSchedules (fun _ _ => rfl) effect.1)
  | getCurrentUser => exact effect.elim
  | updateCurrentUser update =>
      obtain ⟨⟨user, passwordHash, old, requester, hashes, found, edits⟩, _⟩ :=
        effect
      by_cases same : userId = user.id
      · obtain ⟨now, _, _, _, token, tokenId, tokenVersion, isToken, decoded,
          isUser, _⟩ := requester
        have isId : tokenId = userId :=
          (Table.key_of_find? isUser).symm.trans same.symm
        have noPassword : update.password = none := by
          simpa using fun given => spares
            ⟨given, now, token, tokenVersion, isToken, isId ▸ decoded⟩
        rw [noPassword] at hashes
        rw [hashes_none hashes] at edits
        exact stands_merges stands found edits
      · exact stands_other stands edits same
  | getCurrentStudent => exact effect.elim
  | user route => exact stands_users spares stands effect.1
  | registerUser user => exact stands_creates stands effect.1
  | loginUser userLogin => exact effect.elim

end Effects

/-! ## Processes -/

section Processes

variable {libraries : Libraries} {settings : Settings} (userId : Id)
  (kept : Standing)

/-- No statement ends the standing of the account. -/
abbrev Spares (program : Prog university (Except Exc Unit)) : Prop :=
  program.Follows (keeping fun store => Stands userId kept (committed store))

theorem spares_of_leaves {request : Py Unit}
    (leaves : Leaves committed request) :
    Spares userId kept request.run :=
  Prog.Keeps.keeping leaves (Stands userId kept)

def always (_ : Time) (_ : Tables) : Prop := True

theorem spares_of_affects {effect : Change} {request : Py Unit}
    (affects : Affects always effect request)
    (stands : ∀ before after, Stands userId kept before.1 →
      effect before after → Stands userId kept after.1) :
    Spares userId kept request.run := by
  refine Prog.Follows.weaken
    (Prog.Settles.follows affects fun _ _ _ => trivial) ?_
  intro me label choice before after lawful held
  rcases lawful with same | has
  · have sameTables : committed after = committed before :=
      congrArg Prod.fst same
    rw [sameTables]
    exact held
  · exact stands _ _ held has

theorem affects_createAdmin (environment : Environment)
    (arguments : AdminArguments) :
    Affects always (onTables (Creates users fun _ => True))
      (createAdmin libraries environment arguments) := by
  have rolls : Leaves database rollback := leaves_rollback database_besideLocks
  unfold createAdmin
  cases resolve environment arguments with
  | none => exact affects_leaves leaves_pure
  | some account =>
      have handled : Affects always (onTables (Creates users fun _ => True))
          (tryCatch (insertAdmin libraries account) fun _ => do
            rollback
            return 1) := by
        refine affects_tryCatch (affects_then leaves_query fun existing => ?_)
          fun _ => leaves_bind rolls fun _ => leaves_pure
        cases scalarOneOrNone existing with
        | error exc => exact affects_throw
        | ok found =>
            cases found with
            | some user => exact affects_leaves leaves_pure
            | none =>
                refine affects_bind (settles_hashPassword account.password)
                  fun hashed _ => affects_before (affects_inserts ?_)
                    fun newAdmin => leaves_bind (leaves_refreshUser _)
                      fun _ => leaves_pure
                intro choice before after inserted
                obtain ⟨fresh, rfl⟩ := insertUser_ok inserted
                exact ⟨_, trivial, fresh, _, rfl,
                  Table.sets_insert _ _ fresh⟩
      exact affects_before (affects_tryCatch handled
        fun _ => leaves_bind rolls fun _ => leaves_throw)
        fun _ => leaves_bind rolls fun _ => leaves_pure

/-- The tables are no part of the job queue. -/
theorem committed_beside : Beside committed :=
  ⟨fun _ _ _ => rfl, fun _ _ _ => rfl⟩

theorem sparing_spares {program : Prog university (Except Exc Unit)}
    (process : Sparing libraries settings userId program) :
    Spares userId kept program := by
  cases process with
  | request credentials route spares =>
      exact spares_of_affects userId kept (affects_serve credentials route)
        fun _ _ stands effect => stands_effect spares stands effect
  | reconcileOnce =>
      exact spares_of_leaves userId kept
        (leaves_silent (leaves_reconcileOnce committed_beside.toBesideJobs))
  | runOnce =>
      exact spares_of_leaves userId kept
        (leaves_silent (leaves_runOnce committed_beside settings))
  | createAdmin environment arguments =>
      exact spares_of_affects userId kept
        (affects_silent (affects_createAdmin environment arguments))
        fun _ _ stands created => stands_creates stands created.1

theorem sparing_follows : (sparing libraries settings userId).Follows
    (keeping fun store => Stands userId kept (committed store)) where
  starts _ _ process := sparing_spares userId kept process
  children child := by
    cases child with
    | heartbeat claim execution =>
        exact spares_of_leaves userId kept
          (leaves_heartbeatLoop committed_beside.toBesideJobs settings claim execution)

end Processes

/-! ## Runs -/

/-- In every run in which nothing is started that revokes the sessions of an
account, an account that a token is accepted for keeps its role, its password
and its token version, and the token is accepted whenever it decodes as it
did. -/
theorem sessions_survive (libraries : Libraries) (settings : Settings)
    (user : User) (origin : Store)
    (first last : Config university (Except Exc Unit))
    (before : Reachable (sparing libraries settings user.id) anything origin
      first)
    (run : Run (sparing libraries settings user.id) anything first last)
    (now later : Time) (credentials : Option String)
    (accepted : Authenticated libraries now credentials user
      (committed first.store))
    (unexpired : ∀ token, credentials = some token →
      decodeAccessToken libraries later token =
        decodeAccessToken libraries now token) :
    ∃ current, current.id = user.id ∧ standing current = standing user ∧
      Authenticated libraries later credentials current
        (committed last.store) := by
  obtain ⟨token, userId, tokenVersion, isToken, decoded, found, version⟩ :=
    accepted
  have isId : user.id = userId := Table.key_of_find? found
  have follows := @sparing_follows libraries settings user.id (standing user)
  have stands : Stands user.id (standing user) (committed last.store) := by
    refine follows.preserves run (follows.threads before
      (List.forall_mem_nil _)) ?_
    rw [isId]
    exact congrArg (Option.map standing) found
  obtain ⟨current, there, same⟩ := Option.map_eq_some_iff.mp stands
  have sameVersion : current.tokenVersion = user.tokenVersion :=
    congrArg Standing.tokenVersion same
  refine ⟨current, Table.key_of_find? there, same, token, userId, tokenVersion,
    isToken, (unexpired token isToken).trans decoded, isId ▸ there, ?_⟩
  rw [sameVersion]
  exact version

/-! ### A user takes another name -/

def newName : Route := .updateCurrentUser { username := some "dean" }

def renamer : Config university (Except Exc Unit) where
  store := { db := sampleDatabase }
  threads := [served (some "first") newName]

def renamed : Config university (Except Exc Unit) :=
  renamer.played (sparing sampleLibraries .default sampleUser.id) accept
    (plain [0, 0, 0, 0, 0])

example : (renamed.store.db.tables.users.find? 2).map User.username =
    some "dean" := by cbv

theorem renamer_reachable :
    Reachable (sparing sampleLibraries .default sampleUser.id) anything
      renamer.store renamer := by
  refine arrivals_run _ anything renamer.store renamer.threads ?_
  intro program member
  rw [List.mem_singleton.mp member]
  exact .request (some "first") newName (by simp [Revokes, newName])

theorem sessions_survive_renamed : ∃ current,
    current.id = sampleUser.id ∧ standing current = standing sampleUser ∧
      Authenticated sampleLibraries 1000 (some "first") current
        (committed renamed.store) :=
  sessions_survive sampleLibraries .default sampleUser renamer.store renamer
    renamed renamer_reachable
    (renamer.played_run (sparing sampleLibraries .default sampleUser.id) accept
      anything (fun _ _ _ _ => trivial) _ (by cbv)) 0 1000 (some "first")
    ⟨"first", 2, 0, rfl, by cbv, by decide, rfl⟩ fun _ _ => rfl

end SystemUni.Accounts.Survival
