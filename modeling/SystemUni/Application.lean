import SystemUni.Accounts.Service
import SystemUni.Cli
import SystemUni.Routers.Frame

/-!
# The application

All its processes over one store: requests of the API, turns of report workers
with their heartbeats, and the command line.  Any number of them may run at the
same time.
-/

set_option autoImplicit false

namespace SystemUni.Application

open Interleaving
open SystemUni.Runtime.Errors
open SystemUni.Runtime.External
open SystemUni.Runtime.Statements
open SystemUni.Runtime.Rules
open SystemUni.Models.Rows
open SystemUni.Models.Schema
open SystemUni.Crud.User
open SystemUni.Crud.Student
open SystemUni.Routers.Api
open SystemUni.Routers.Frame
open SystemUni.Workers.Runner
open SystemUni.Accounts.Frame
open SystemUni.Accounts.Service
open SystemUni.Students.Frame
open SystemUni.Cli

/-- What may be started at any time. -/
inductive Process (libraries : Libraries) (settings : Settings) :
    Prog university (Except Exc Unit) → Prop where
  | request (credentials : Option String) (route : Route) :
      Process libraries settings
        (route.serve libraries settings credentials).run
  | reconcileOnce : Process libraries settings (silent reconcileOnce).run
  | runOnce : Process libraries settings (silent (runOnce settings)).run
  | createAdmin (environment : Environment) (arguments : AdminArguments) :
      Process libraries settings
        (silent (createAdmin libraries environment arguments)).run

def application (libraries : Libraries) (settings : Settings) :
    System university (Except Exc Unit) where
  start _ := Process libraries settings
  code := heartbeat settings

/-! ## What they leave alone

Only exports and workers have to do with what is not in the tables, the cache
and the row locks. -/

section Commits

variable {ν : Type} {view : Store → ν} {libraries : Libraries}
  (tables : ∀ (store : Store) (db : Database),
    view (store.setTables db) = view store)

include tables

theorem leaves_creates {α : Type} {label : Label}
    {flush : Choice → Tables → Except SqlError Tables} {answer : Choice → α} :
    Leaves view (transaction label fun choice store =>
      (store.commit (flush choice)).map fun done =>
        (answer choice, done.2)) := by
  refine leaves_transaction ?_
  intro choice store value next body
  obtain ⟨done, committed, becomes⟩ := mapped_ok body
  cases becomes
  obtain ⟨db, _, same⟩ := Store.commit_ok committed
  rw [same]
  exact tables store db

theorem leaves_createStudent (locks : BesideLocks view)
    (student : StudentCreate) : Leaves view (createStudent student) := by
  exact leaves_tryCatch (leaves_bind (leaves_creates tables)
    fun newStudent => leaves_refreshStudent newStudent.id)
    (leaves_handled locks handles_createErrors)

theorem leaves_insertAdmin (account : AdminAccount) :
    Leaves view (insertAdmin libraries account) := by
  refine leaves_bind leaves_query fun existing => ?_
  cases scalarOneOrNone existing with
  | error exc => exact leaves_throw
  | ok found =>
      cases found with
      | some user => exact leaves_pure
      | none =>
          exact leaves_bind (leaves_bind leaves_observe
            fun _ => leaves_pure) fun hashed =>
            leaves_bind (leaves_creates tables) fun newAdmin =>
              leaves_bind (leaves_refreshUser _) fun _ => leaves_pure

theorem leaves_createAdmin (locks : BesideLocks view)
    (environment : Environment) (arguments : AdminArguments) :
    Leaves view (createAdmin libraries environment arguments) := by
  unfold createAdmin
  cases resolve environment arguments with
  | none => exact leaves_pure
  | some account =>
      have rolls := leaves_rollback locks
      exact leaves_withFinally (leaves_tryCatch
        (leaves_insertAdmin tables account)
        fun _ => leaves_bind rolls fun _ => leaves_pure) rolls

end Commits

section Leaves

variable {ν : Type} {view : Store → ν} {libraries : Libraries}
  {settings : Settings} (beside : BesideDatabase view)

include beside

theorem besideDatabase_onlyStudents : OnlyStudents view where
  toBesideLocks := beside.toBesideLocks
  tables store db _ := beside.tables store db

theorem students_unseen : Unseen view (studentEndpoints libraries) where
  create student := leaves_silent
    (leaves_createStudent beside.tables beside.toBesideLocks student)
  read user studentId := leaves_silent (leaves_readStudent
    (fun store cache => beside.cache store cache store.returned) studentId user)
  list user skip limit := leaves_silent (leaves_readStudents user skip limit)
  update update studentId :=
    leaves_silent (leaves_updateStudent beside update studentId)
  delete studentId := leaves_silent (leaves_deleteStudent beside studentId)

theorem users_unseen : Unseen view (userEndpoints libraries) where
  create payload := nomatch payload
  read _ userId := leaves_silent (leaves_readUser userId)
  list _ skip limit := leaves_silent (leaves_readUsers skip limit)
  update update userId :=
    leaves_silent (leaves_updateUser beside.toBesideUsers update userId)
  delete userId := leaves_silent (leaves_deleteUser beside userId)

/-- Every endpoint but the export. -/
theorem leaves_program (credentials : Option String) (route : Route)
    (other : ∀ studentId, route ≠ .exportTranscriptAsync studentId) :
    Leaves view (route.program libraries settings credentials) := by
  have only := besideDatabase_onlyStudents beside
  cases route with
  | healthCheck => exact leaves_silent leaves_healthCheck
  | getTranscript studentId =>
      exact leaves_bind (leaves_requireRoles _ credentials)
        fun user => leaves_silent (leaves_getTranscript studentId user)
  | exportTranscriptAsync studentId => exact absurd rfl (other studentId)
  | getJobStatus jobId =>
      exact leaves_bind (leaves_requireRoles _ credentials)
        fun user => leaves_silent (leaves_getJobStatus jobId user)
  | college route => exact (colleges_unseen only).leaves _ credentials route
  | course route => exact (courses_unseen only).leaves _ credentials route
  | courseOffering route =>
      exact (courseOfferings_unseen only).leaves _ credentials route
  | department route =>
      exact (departments_unseen only).leaves _ credentials route
  | teacher route => exact (teachers_unseen only).leaves _ credentials route
  | student route => exact (students_unseen beside).leaves _ credentials route
  | linkStudentUser studentId userId =>
      exact leaves_bind (leaves_requireRoles _ credentials)
        fun _ => leaves_silent
          (leaves_linkStudentToUser beside studentId userId)
  | enrollment route =>
      exact (enrollments_unseen only).leaves _ credentials route
  | courseSchedule route =>
      exact (courseSchedules_unseen only).leaves _ credentials route
  | getCurrentUser => exact leaves_silent (leaves_getCurrentUser credentials)
  | updateCurrentUser userUpdate =>
      exact leaves_bind (leaves_getCurrentUser credentials)
        fun user => leaves_silent
          (leaves_updateUserMe beside.toBesideUsers userUpdate user)
  | getCurrentStudent =>
      exact leaves_bind (leaves_getCurrentUser credentials)
        fun user => leaves_silent (leaves_getCurrentStudentEndpoint user)
  | user route => exact (users_unseen beside).leaves _ credentials route
  | registerUser payload =>
      exact leaves_bind leaves_limited
        fun _ => leaves_silent (leaves_registerUser beside.toBesideLocks
          (fun store _ db _ => beside.tables store db) payload)
  | loginUser userLogin =>
      exact leaves_bind leaves_limited
        fun _ => leaves_silent (leaves_loginUser userLogin)

end Leaves

/-! ## For runs as examples -/

abbrev sampleApplication : System university (Except Exc Unit) :=
  application sampleLibraries .default

def served (credentials : Option String) (route : Route) :
    Prog university (Except Exc Unit) :=
  (route.serve sampleLibraries .default credentials).run

theorem started_reachable (condition : Condition university) (store : Store)
    (programs : List (Prog university (Except Exc Unit)))
    (processes : ∀ program ∈ programs,
      Process sampleLibraries .default program) :
    Reachable sampleApplication condition store ⟨store, programs⟩ :=
  arrivals_run _ _ _ programs processes

end SystemUni.Application
