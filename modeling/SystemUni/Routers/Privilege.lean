import SystemUni.Routers.Access
import SystemUni.Workers.Queue

/-!
# What requests of non-administrators write

Registration, the requester's own account and an export of the requester's own
transcript are all that the dependencies let through.
-/

set_option autoImplicit false

namespace SystemUni.Routers.Privilege

open Interleaving Relational
open SystemUni.Runtime.Errors
open SystemUni.Runtime.External
open SystemUni.Runtime.Statements
open SystemUni.Runtime.Rules
open SystemUni.Models.Rows
open SystemUni.Models.Changes
open SystemUni.Models.Jobs
open SystemUni.Models.Schema
open SystemUni.Security.Auth
open SystemUni.Crud.User
open SystemUni.Crud.Student
open SystemUni.Routers.Reports
open SystemUni.Routers.Api
open SystemUni.Routers.Frame
open SystemUni.Routers.Access
open SystemUni.Workers.Queue
open SystemUni.Accounts.Frame
open SystemUni.Accounts.Writers
open SystemUni.Students.Frame

/-! ## Effects -/

def database (store : Store) : Tables × Queue := (committed store, store.queue)

theorem database_eq {store : Store} {tables : Tables} {queue : Queue}
    (sameTables : committed store = tables) (sameQueue : store.queue = queue) :
    database store = (tables, queue) := Prod.ext sameTables sameQueue

/-- What may become of the database when these accounts are the requester. -/
inductive Permitted (requester : User → Prop) (before : Tables × Queue) :
    Tables × Queue → Prop where
  | unchanged : Permitted requester before before
  /-- One new account, a guest's. -/
  | registered (row : User) (fresh : before.1.users.find? row.id = none)
      (guest : row.role = .guest) :
      Permitted requester before
        ({ before.1 with users := before.1.users.insert row fresh }, before.2)
  /-- The username, email, password hash and token version of the requester's
  own account. -/
  | updated (user : User) (isRequester : requester user)
      (loaded : before.1.users.find? user.id = some user)
      (change : UserChange) (noRole : change.role = none) :
      Permitted requester before
        ({ before.1 with
          users := before.1.users.updateWhere
            (fun row => decide (row.id = user.id)) change.apply
            change.apply_id }, before.2)
  /-- One new queued job of the requester's, for the student linked to the
  requester. -/
  | exported (user : User) (isRequester : requester user) (student : Student)
      (found : before.1.students.find? student.id = some student)
      (linked : student.userId = some user.id) (job : Job) (record : Export)
      (fresh : before.2.jobs.find? job.jobId = none)
      (queued : job.status = .queued) (owner : job.ownerId = user.id)
      (target : job.targetId = student.id) :
      Permitted requester before (before.1, { before.2 with
        jobs := before.2.jobs.insert job fresh
        exports := record :: before.2.exports })

/-- Nobody the request may come from is an administrator. -/
def NonAdmin (libraries : Libraries) (condition : Condition university)
    (credentials : Option String) (store : Store) : Prop :=
  ∀ user, Requester libraries condition credentials user store →
    user.role ≠ .admin

/-! ## Endpoints -/

section Specifications

variable {libraries : Libraries} {settings : Settings}
  {condition : Condition university} {me : Nat} {store : Store}
  {credentials : Option String} {α : Type}

/-- However the request ends, it has done what is permitted. -/
abbrev Complies (libraries : Libraries) (condition : Condition university)
    (credentials : Option String) (me : Nat) (request : Py α)
    (store : Store) : Prop :=
  Yields condition me request
    (fun _ later => Permitted
      (fun user => Requester libraries condition credentials user store)
      (database store) (database later))
    (fun _ later => Permitted
      (fun user => Requester libraries condition credentials user store)
      (database store) (database later)) store

theorem complies_of_leaves {request : Py α} (leaves : Leaves database request) :
    Complies libraries condition credentials me request store := by
  have unchanged (later : Store) (same : database later = database store) :
      Permitted
        (fun user => Requester libraries condition credentials user store)
        (database store) (database later) := by
    rw [same]
    exact .unchanged
  exact yields_mono (yields_of_leaves leaves)
    (fun _ later => unchanged later) fun _ later => unchanged later

theorem complies_silent {request : Py α}
    (complies : Complies libraries condition credentials me request store) :
    Complies libraries condition credentials me (silent request) store :=
  yields_bind (yields_mono complies (fun _ _ kept => yields_pure kept)
    fun _ _ kept => kept)

theorem complies_guarded {allowedRoles : List UserRole}
    {handler : User → Py Unit}
    (complies : ∀ user, user.role ∈ allowedRoles →
      Requester libraries condition credentials user store →
      Complies libraries condition credentials me (handler user) store) :
    Complies libraries condition credentials me
      (requireRoles libraries allowedRoles credentials >>= handler) store := by
  refine yields_bind (yields_mono (yields_requireRoles allowedRoles) ?_ ?_)
  · rintro user later ⟨rfl, allowed, requester⟩
    exact complies user allowed requester
  · rintro _ later rfl
    exact .unchanged

theorem complies_admin {handler : User → Py Unit}
    (nonAdmin : NonAdmin libraries condition credentials store) :
    Complies libraries condition credentials me
      (requireRoles libraries [.admin] credentials >>= handler) store := by
  refine complies_guarded fun user allowed requester => ?_
  exact absurd (List.mem_singleton.mp allowed) (nonAdmin user requester)

theorem complies_table {ι υ : Type} {endpoints : TableEndpoints ι υ}
    (nonAdmin : NonAdmin libraries condition credentials store)
    (reads : ∀ user rowId, Leaves database (endpoints.read user rowId))
    (lists : ∀ user skip limit,
      Leaves database (endpoints.list user skip limit))
    (route : TableRoute ι υ) :
    Complies libraries condition credentials me
      (endpoints.program libraries credentials route) store := by
  cases route with
  | create payload => exact complies_admin nonAdmin
  | read rowId =>
      exact complies_guarded fun user _ _ =>
        complies_of_leaves (reads user rowId)
  | list skip limit =>
      exact complies_guarded fun user _ _ =>
        complies_of_leaves (lists user skip limit)
  | update payload rowId => exact complies_admin nonAdmin
  | delete rowId => exact complies_admin nonAdmin

theorem complies_registerUser (user : UserRegister) :
    Complies libraries condition credentials me
      (Crud.User.registerUser libraries user) store := by
  have leaves : Leaves Store.queue (Crud.User.registerUser libraries user) :=
    leaves_registerUser queue_besideDatabase.toBesideLocks
      (fun _ _ _ _ => rfl) user
  have created (later : Store)
      (creates : Created libraries user.username (libraries.lower user.email)
        .guest user.password (committed store) (committed later))
      (sameQueue : later.queue = store.queue) :
      Permitted
        (fun user => Requester libraries condition credentials user store)
        (database store) (database later) := by
    obtain ⟨row, salt, fresh, _, _, guest, _, _, isAfter⟩ := creates
    rw [database_eq isAfter sameQueue]
    exact .registered row fresh guest
  refine yields_mono (yields_and yields_registerUser (yields_of_leaves leaves))
    ?_ ?_
  · rintro _ later ⟨creates, sameQueue⟩
    exact created later creates sameQueue
  · rintro _ later ⟨same | creates, sameQueue⟩
    · rw [database_eq same sameQueue]
      exact .unchanged
    · exact created later creates sameQueue

theorem complies_updateUserMe (userUpdate : UserSelfUpdate) {user : User}
    (requester : Requester libraries condition credentials user store) :
    Complies libraries condition credentials me
      (updateUserMe libraries userUpdate user) store := by
  have leaves : Leaves Store.queue (updateUserMe libraries userUpdate user) :=
    leaves_updateUserMe queue_besideDatabase.toBesideUsers userUpdate user
  have updated (later : Store)
      (updates : Updated libraries user.id userUpdate.username userUpdate.email
        none userUpdate.password (committed store) (committed later))
      (sameQueue : later.queue = store.queue) :
      Permitted
        (fun user => Requester libraries condition credentials user store)
        (database store) (database later) := by
    obtain ⟨row, salt, found, change, isChange, isAfter⟩ := updates
    rw [database_eq isAfter sameQueue]
    exact .updated user requester requester.loaded change (by rw [isChange]; rfl)
  refine yields_mono (yields_and (yields_updateUserMe requester.loaded)
    (yields_of_leaves leaves)) ?_ ?_
  · rintro _ later ⟨updates, sameQueue⟩
    exact updated later updates sameQueue
  · rintro _ later ⟨same | updates, sameQueue⟩
    · rw [database_eq same sameQueue]
      exact .unchanged
    · exact updated later updates sameQueue

/-- The job is for the student that was read, who is linked to the
requester. -/
theorem complies_exportTranscriptAsync (studentId : Id) {user : User}
    (requester : Requester libraries condition credentials user store)
    (noAdmin : user.role ≠ .admin) :
    Complies libraries condition credentials me
      (Reports.exportTranscriptAsync studentId user) store := by
  refine yields_bind (yields_select (fun _ _ => .unchanged) fun _ => ?_)
  cases found : store.db.tables.students.find? studentId with
  | none => exact yields_throw .unchanged
  | some student =>
      have isStudent := Table.key_of_find? found
      simp only
      split
      · exact yields_throw .unchanged
      rename_i allowed
      have linked : student.userId = some user.id := by
        simpa [mayExport, noAdmin] using allowed
      refine yields_bind (yields_internal fun draw _ => ?_)
      refine yields_bind (yields_transaction (fun _ _ _ => .unchanged) ?_
        fun _ _ _ _ => .unchanged)
      intro choice done next _ body
      obtain ⟨queue, enqueued, becomes⟩ := mapped_ok body
      cases becomes
      obtain ⟨fresh, isQueue⟩ := enqueueJob_ok enqueued
      have exports : Permitted
          (fun user => Requester libraries condition credentials user store)
          (database store) (committed store, queue) := by
        rw [isQueue]
        exact .exported user requester student
          (by rw [isStudent]; exact found) linked _ _ fresh rfl rfl
          isStudent.symm
      exact ⟨yields_pure exports, fun _ _ _ => exports⟩

/-- The step: whatever the route, a request complies. -/
theorem complies_route
    (nonAdmin : NonAdmin libraries condition credentials store)
    (route : Route) :
    Complies libraries condition credentials me
      (route.program libraries settings credentials) store := by
  cases route with
  | healthCheck => exact complies_of_leaves (leaves_silent leaves_healthCheck)
  | getTranscript studentId =>
      exact complies_guarded fun user _ _ => complies_of_leaves
        (leaves_silent (leaves_getTranscript studentId user))
  | exportTranscriptAsync studentId =>
      exact complies_guarded fun user _ requester => complies_silent
        (complies_exportTranscriptAsync studentId requester
          (nonAdmin user requester))
  | getJobStatus jobId =>
      exact complies_guarded fun user _ _ => complies_of_leaves
        (leaves_silent (leaves_getJobStatus jobId user))
  | college route =>
      exact complies_table nonAdmin
        (fun _ collegeId => leaves_silent (leaves_readRow _ _ collegeId))
        (fun _ skip limit => leaves_silent (leaves_readRows _ skip limit)) route
  | course route =>
      exact complies_table nonAdmin
        (fun _ courseId => leaves_silent (leaves_readRow _ _ courseId))
        (fun _ skip limit => leaves_silent (leaves_readRows _ skip limit)) route
  | courseOffering route =>
      exact complies_table nonAdmin
        (fun _ courseOfferingId =>
          leaves_silent (leaves_readRow _ _ courseOfferingId))
        (fun _ skip limit => leaves_silent (leaves_readRows _ skip limit)) route
  | department route =>
      exact complies_table nonAdmin
        (fun _ departmentId => leaves_silent (leaves_readRow _ _ departmentId))
        (fun _ skip limit => leaves_silent (leaves_readRows _ skip limit)) route
  | teacher route =>
      exact complies_table nonAdmin
        (fun _ teacherId => leaves_silent (leaves_readRow _ _ teacherId))
        (fun _ skip limit => leaves_silent (leaves_readRows _ skip limit)) route
  | student route =>
      exact complies_table nonAdmin
        (fun user studentId => leaves_silent
          (leaves_readStudent (fun _ _ => rfl) studentId user))
        (fun user skip limit =>
          leaves_silent (leaves_readStudents user skip limit)) route
  | linkStudentUser studentId userId => exact complies_admin nonAdmin
  | enrollment route =>
      exact complies_table nonAdmin
        (fun user enrollmentId =>
          leaves_silent (leaves_readEnrollment enrollmentId user))
        (fun user skip limit =>
          leaves_silent (leaves_readEnrollments user skip limit)) route
  | courseSchedule route =>
      exact complies_table nonAdmin
        (fun _ courseScheduleId =>
          leaves_silent (leaves_readRow _ _ courseScheduleId))
        (fun _ skip limit => leaves_silent (leaves_readRows _ skip limit)) route
  | getCurrentUser =>
      exact complies_of_leaves (leaves_silent (leaves_getCurrentUser credentials))
  | updateCurrentUser userUpdate =>
      refine yields_bind (yields_mono yields_getCurrentUser ?_ ?_)
      · rintro user later ⟨rfl, requester⟩
        exact complies_silent (complies_updateUserMe userUpdate requester)
      · rintro _ later rfl
        exact .unchanged
  | getCurrentStudent =>
      exact complies_of_leaves (leaves_bind (leaves_getCurrentUser credentials)
        fun user => leaves_silent (leaves_getCurrentStudentEndpoint user))
  | user route =>
      exact complies_table nonAdmin
        (fun _ userId => leaves_silent (leaves_readUser userId))
        (fun _ skip limit => leaves_silent (leaves_readUsers skip limit)) route
  | registerUser payload =>
      have unchanged : Leaves id limited := leaves_limited
      refine yields_bind (yields_mono (yields_of_leaves unchanged) ?_ ?_)
      · rintro _ later rfl
        exact complies_silent (complies_registerUser payload)
      · rintro _ later rfl
        exact .unchanged
  | loginUser userLogin =>
      exact complies_of_leaves (leaves_bind leaves_limited fun _ =>
        leaves_silent (leaves_loginUser userLogin))

end Specifications

/-! ## Roles -/

/-- Nobody's role changes, nobody disappears, and whoever appears is a
guest. -/
structure RolesKept (before after : Tables) : Prop where
  kept : ∀ old ∈ before.users.rows,
    ∃ row ∈ after.users.rows, row.id = old.id ∧ row.role = old.role
  known : ∀ row ∈ after.users.rows,
    (∃ old ∈ before.users.rows, old.id = row.id ∧ old.role = row.role) ∨
      row.role = .guest

theorem RolesKept.refl (tables : Tables) : RolesKept tables tables where
  kept old member := ⟨old, member, rfl, rfl⟩
  known row member := .inl ⟨row, member, rfl, rfl⟩

theorem RolesKept.trans {first middle last : Tables}
    (before : RolesKept first middle) (after : RolesKept middle last) :
    RolesKept first last where
  kept old member := by
    obtain ⟨row, rowMember, sameId, sameRole⟩ := before.kept old member
    obtain ⟨next, nextMember, nextId, nextRole⟩ := after.kept row rowMember
    exact ⟨next, nextMember, nextId.trans sameId, nextRole.trans sameRole⟩
  known row member := by
    rcases after.known row member with ⟨old, oldMember, sameId, sameRole⟩ | guest
    · rcases before.known old oldMember with
        ⟨oldest, oldestMember, oldestId, oldestRole⟩ | guest
      · exact .inl ⟨oldest, oldestMember, oldestId.trans sameId,
          oldestRole.trans sameRole⟩
      · exact .inr (sameRole.symm.trans guest)
    · exact .inr guest

theorem Permitted.roles {requester : User → Prop} {before after : Tables × Queue}
    (permitted : Permitted requester before after) :
    RolesKept before.1 after.1 := by
  cases permitted with
  | unchanged => exact .refl _
  | registered row fresh guest =>
      refine ⟨fun old member => ⟨old, ?_, rfl, rfl⟩, fun other member => ?_⟩
      · exact (Table.mem_insert fresh).mpr (.inl member)
      · rcases (Table.mem_insert fresh).mp member with old | rfl
        · exact .inl ⟨other, old, rfl, rfl⟩
        · exact .inr guest
  | updated user isRequester loaded change noRole =>
      have keeps : ∀ row : User, (change.apply row).role = row.role := by
        intro row
        simp [UserChange.apply, noRole]
      refine ⟨fun old member => ?_, fun row member => .inl ?_⟩
      · refine ⟨_, (Table.mem_updateWhere change.apply_id).mpr
          ⟨old, member, rfl⟩, ?_⟩
        split
        · exact ⟨rfl, keeps old⟩
        · exact ⟨rfl, rfl⟩
      · obtain ⟨old, oldMember, isRow⟩ :=
          (Table.mem_updateWhere change.apply_id).mp member
        refine ⟨old, oldMember, ?_⟩
        rw [← isRow]
        split
        · exact ⟨rfl, (keeps old).symm⟩
        · exact ⟨rfl, rfl⟩
  | exported => exact .refl _

/-! ## Requests and runs -/

theorem serve_permitted {libraries : Libraries} {settings : Settings}
    {condition : Condition university} {me : Nat} {store last : Store}
    {credentials : Option String} {route : Route} {answer : Except Exc Unit}
    (nonAdmin : NonAdmin libraries condition credentials store)
    (runs : Evaluates condition me
      (route.serve libraries settings credentials).run store answer last) :
    Permitted (fun user => Requester libraries condition credentials user store)
      (database store) (database last) := by
  have served : Complies libraries condition credentials me
      (route.serve libraries settings credentials) store :=
    yields_getDb (fun _ permitted => permitted) (complies_route nonAdmin route)
  have ended := runs.ensured served
  cases answer with
  | ok done => exact ended
  | error exc => exact ended

/-- A request that does not come from an administrator changes nothing but what
is permitted; in a run of such requests no role changes and only guests
appear. -/
theorem non_admins_change_nothing_else (libraries : Libraries)
    (settings : Settings) :
    (∀ condition me credentials (route : Route) store answer last,
      NonAdmin libraries condition credentials store →
      Evaluates condition me (route.serve libraries settings credentials).run
        store answer last →
      Permitted
        (fun user => Requester libraries condition credentials user store)
        (database store) (database last)) ∧
    (∀ first last, Run libraries settings
      (fun condition credentials store _ =>
        NonAdmin libraries condition credentials store) first last →
      RolesKept (committed first) (committed last)) := by
  refine ⟨fun condition me credentials route store answer last nonAdmin runs =>
    serve_permitted nonAdmin runs, fun first last run => ?_⟩
  refine run.invariant (fun store => RolesKept (committed first)
    (committed store)) (.refl _) ?_
  rintro condition store me _ kept ⟨credentials, route, rfl, nonAdmin⟩
  have served : Complies libraries condition credentials me
      (route.serve libraries settings credentials) store :=
    yields_getDb (fun _ permitted => permitted) (complies_route nonAdmin route)
  refine ensures_mono _ store served ?_
  intro result later ended
  have permitted : Permitted
      (fun user => Requester libraries condition credentials user store)
      (database store) (database later) := by
    cases result with
    | ok done => exact ended
    | error exc => exact ended
  exact kept.trans permitted.roles

def registration : Route := .registerUser ⟨"adam", "adam@uni.edu", "a password"⟩

def registeredStore : Store :=
  (registration.serve sampleLibraries .default none).run.settled 0
    (fun _ => { newId := 3 }) sampleStore

theorem non_admins_change_nothing_else_registered :
    Permitted
      (fun user => Requester sampleLibraries anything none user sampleStore)
      (database sampleStore) (database registeredStore) ∧
    RolesKept (committed sampleStore) (committed registeredStore) := by
  obtain ⟨answer, runs⟩ := evaluates_settled anything 0
    (registration.serve sampleLibraries .default none).run
    (fun _ => { newId := 3 }) sampleStore (fun _ _ _ => trivial)
    (by decide +kernel)
  have nobody : NonAdmin sampleLibraries anything none sampleStore := by
    rintro user ⟨label, choice, _, token, _, _, absurd, _⟩
    cases absurd
  have start : Run sampleLibraries .default
      (fun condition credentials store _ =>
        NonAdmin sampleLibraries condition credentials store)
      sampleStore sampleStore := Episodes.refl _
  have changes := non_admins_change_nothing_else sampleLibraries .default
  exact ⟨changes.1 anything 0 none registration sampleStore answer
      registeredStore nobody runs,
    changes.2 sampleStore registeredStore (start.next 0 anything _ answer
      ⟨none, registration, rfl, nobody⟩ runs)⟩

end SystemUni.Routers.Privilege
