import SystemUni.Application
import SystemUni.Crud.Responses
import SystemUni.Interleaving.Progress
import SystemUni.Services.Gpa

/-!
# What a request is answered

A request that has the servers to itself never waits and always ends.  Where it
fails the client is told so with a 4xx response, and nothing has been written.
Only three computations may raise something else: the comparison of the times
of a schedule, the validation of a stored student and the verification of a
password.
-/

set_option autoImplicit false

namespace SystemUni.Routers.Responses

open Interleaving Relational
open SystemUni.Runtime.Errors
open SystemUni.Runtime.External
open SystemUni.Runtime.Statements
open SystemUni.Runtime.Rules
open SystemUni.Models.Rows
open SystemUni.Models.Schema
open SystemUni.Security.Auth
open SystemUni.Crud.User
open SystemUni.Crud.Deletion
open SystemUni.Crud.Student
open SystemUni.Schemas.Fields
open SystemUni.Crud.Enrollment
open SystemUni.Crud.CourseSchedule
open SystemUni.Crud.Responses
open SystemUni.Services.Reports
open SystemUni.Routers.Main
open SystemUni.Routers.Reports
open SystemUni.Routers.Api
open SystemUni.Routers.Frame
open SystemUni.Application
open SystemUni.Students.Frame
open SystemUni.Registrar.UserDeletes
open SystemUni.Registrar.ScheduleTimes

/-! ## The endpoints of a table -/

section Tables

variable {allowed : Choice → Prop} [Answered allowed] {me : Nat}
  {store : Store}

structure Responsive {ι υ : Type} (allowed : Choice → Prop)
    (crash : TableRoute ι υ → Exc → Prop) (me : Nat)
    (endpoints : TableEndpoints ι υ) (store : Store) : Prop where
  create : ∀ payload, Responds allowed (crash (.create payload)) me
    (endpoints.create payload) store
  read : ∀ user rowId, Responds allowed (crash (.read rowId)) me
    (endpoints.read user rowId) store
  list : ∀ user skip limit, Responds allowed (crash (.list skip limit)) me
    (endpoints.list user skip limit) store
  update : ∀ payload rowId, Responds allowed (crash (.update payload rowId)) me
    (endpoints.update payload rowId) store
  delete : ∀ rowId, Responds allowed (crash (.delete rowId)) me
    (endpoints.delete rowId) store

theorem Responsive.responds {ι υ : Type}
    {crash : TableRoute ι υ → Exc → Prop} {endpoints : TableEndpoints ι υ}
    (responsive : Responsive allowed crash me endpoints store)
    (libraries : Libraries) (credentials : Option String)
    (route : TableRoute ι υ) :
    Responds allowed (crash route) me
      (endpoints.program libraries credentials route) store := by
  cases route with
  | create payload =>
      exact responds_bind finishes_requireRoles fun _ =>
        responsive.create payload
  | read rowId =>
      exact responds_bind finishes_requireRoles fun user =>
        responsive.read user rowId
  | list skip limit =>
      exact responds_bind finishes_requireRoles fun user =>
        responsive.list user skip limit
  | update payload rowId =>
      exact responds_bind finishes_requireRoles fun _ =>
        responsive.update payload rowId
  | delete rowId =>
      exact responds_bind finishes_requireRoles fun _ =>
        responsive.delete rowId

omit [Answered allowed] in
theorem responds_silent {crash : Exc → Prop} {α : Type} {request : Py α}
    (responds : Responds allowed crash me request store) :
    Responds allowed crash me (silent request) store :=
  responds_map responds fun _ => ⟨(), rfl⟩

theorem responds_deletes {ρ δ : Type} {crash : Exc → Prop}
    {deletion : RowDeletion ρ δ} {message : String}
    (detaches : Detaches deletion) :
    Responds allowed crash me
      (silent (do
        let _ ← deleteRow deletion
        return message)) store :=
  responds_silent (responds_map (responds_deleteRow detaches)
    fun _ => ⟨message, rfl⟩)

theorem colleges_responsive :
    Responsive allowed (fun _ _ => False) me collegeEndpoints store where
  create _ := responds_silent
    (responds_createRow (fun _ _ => rfl) (by decide))
  read _ _ := responds_silent (responds_readRow (by decide))
  list _ _ _ := responds_silent responds_select
  update _ _ := responds_silent
    (responds_updateRow (fun _ _ => rfl) (by decide) (by decide))
  delete collegeId := responds_deletes (detaches_college collegeId)

theorem courses_responsive :
    Responsive allowed (fun _ _ => False) me courseEndpoints store where
  create _ := responds_silent
    (responds_createRow (fun _ _ => rfl) (by decide))
  read _ _ := responds_silent (responds_readRow (by decide))
  list _ _ _ := responds_silent responds_select
  update _ _ := responds_silent
    (responds_updateRow (fun _ _ => rfl) (by decide) (by decide))
  delete courseId := responds_deletes (detaches_course courseId)

theorem courseOfferings_responsive :
    Responsive allowed (fun _ _ => False) me courseOfferingEndpoints store where
  create _ := responds_silent
    (responds_createRow (fun _ _ => rfl) (by decide))
  read _ _ := responds_silent (responds_readRow (by decide))
  list _ _ _ := responds_silent responds_select
  update _ _ := responds_silent
    (responds_updateRow (fun _ _ => rfl) (by decide) (by decide))
  delete courseOfferingId :=
    responds_deletes (detaches_courseOffering courseOfferingId)

theorem departments_responsive :
    Responsive allowed (fun _ _ => False) me departmentEndpoints store where
  create _ := responds_silent
    (responds_createRow (fun _ _ => rfl) (by decide))
  read _ _ := responds_silent (responds_readRow (by decide))
  list _ _ _ := responds_silent responds_select
  update _ _ := responds_silent
    (responds_updateRow (fun _ _ => rfl) (by decide) (by decide))
  delete departmentId := responds_deletes (detaches_department departmentId)

theorem teachers_responsive :
    Responsive allowed (fun _ _ => False) me teacherEndpoints store where
  create _ := responds_silent
    (responds_createRow (fun _ _ => rfl) (by decide))
  read _ _ := responds_silent (responds_readRow (by decide))
  list _ _ _ := responds_silent responds_select
  update _ _ := responds_silent
    (responds_updateRow (fun _ _ => rfl) (by decide) (by decide))
  delete teacherId := responds_deletes (detaches_teacher teacherId)

/-- The times that are compared cannot be. -/
def ScheduleCrashes (tables : Tables) :
    TableRoute CourseScheduleCreate CourseScheduleUpdate → Exc → Prop
  | .create courseSchedule, exc => exc = notComparable ∧
      ¬ Comparable courseSchedule.startTime courseSchedule.endTime
  | .update update courseScheduleId, exc => exc = notComparable ∧
      ∃ row, scheduleOf courseScheduleId tables = some row ∧
        ¬ Comparable (mergedStart update row) (mergedEnd update row)
  | _, _ => False

theorem courseSchedules_responsive :
    Responsive allowed (ScheduleCrashes store.db.tables) me
      courseScheduleEndpoints store where
  create courseSchedule := by
    refine responds_silent ?_
    unfold createCourseSchedule
    by_cases comparable :
      Comparable courseSchedule.startTime courseSchedule.endTime
    · rcases checks_comparable comparable with
        ⟨_, _, ordered⟩ | ⟨_, reversed⟩
      · rw [ordered]
        exact responds_createRow (fun _ _ => rfl) courseScheduleErrors_client
      · rw [reversed]
        exact responds_throw (by decide)
    · have crashes : ensureTimeOrder courseSchedule.startTime
          courseSchedule.endTime = .error notComparable := by
        simp only [ensureTimeOrder, le_incomparable comparable]
        rfl
      rw [crashes]
      exact finishes_throw _ ⟨.inr ⟨rfl, comparable⟩, rfl⟩
  read _ _ := responds_silent (responds_readRow (by decide))
  list _ _ _ := responds_silent responds_select
  update update courseScheduleId := by
    refine responds_silent (finishes_answered (finishes_mono
      (finishes_updateCourseSchedule update courseScheduleId)
      (fun _ _ _ => trivial) ?_))
    rintro exc later (⟨refused, _⟩ | ⟨same, row, found, raised⟩)
    · exact fails_refused refused
    · by_cases comparable :
        Comparable (mergedStart update row) (mergedEnd update row)
      · rcases checks_comparable comparable with
          ⟨_, _, ordered⟩ | ⟨_, reversed⟩
        · rw [ordered] at raised
          cases raised
        · rw [reversed] at raised
          cases raised
          exact fails_refused ⟨by decide, same⟩
      · have crashes : ensureTimeOrder (mergedStart update row)
            (mergedEnd update row) = .error notComparable := by
          simp only [ensureTimeOrder, le_incomparable comparable]
          rfl
        rw [crashes] at raised
        cases raised
        exact ⟨.inr ⟨rfl, row, found, comparable⟩, same⟩
  delete courseScheduleId :=
    responds_deletes (detaches_courseSchedule courseScheduleId)

/-- The stored row is not one that the response schema admits. -/
def StudentCrashes (libraries : Libraries) (tables : Tables) :
    TableRoute StudentCreate StudentUpdate → Exc → Prop
  | .read studentId, exc => exc = validationError ∧
      ∃ row, tables.students.find? studentId = some row ∧
        studentResponse libraries.emailStr row = false
  | _, _ => False

theorem students_responsive {libraries : Libraries} :
    Responsive allowed (StudentCrashes libraries store.db.tables) me
      (studentEndpoints libraries) store where
  create student := responds_silent (responds_createStudent student)
  read user studentId :=
    responds_silent (responds_readStudent libraries studentId user
      fun row found invalid => ⟨rfl, row, found, invalid⟩)
  list user skip limit :=
    responds_silent (responds_checked (by decide) responds_select)
  update update studentId :=
    responds_silent (responds_updateStudent update studentId)
  delete studentId := responds_silent (responds_invalidating
    (responds_deleteRow (detaches_student studentId)))

theorem enrollments_responsive :
    Responsive allowed (fun _ _ => False) me enrollmentEndpoints store where
  create enrollment := responds_silent (responds_createEnrollment enrollment)
  read user enrollmentId := by
    refine responds_silent (responds_checked (by decide)
      (responds_selected fun _ => ?_))
    cases (store.db.tables.enrollments.find? enrollmentId).filter
        (maySeeEnrollment user store.db.tables) with
    | none => exact responds_throw (by decide)
    | some enrollment => exact finishes_pure enrollment trivial
  list user skip limit :=
    responds_silent (responds_checked (by decide) responds_select)
  update _ _ := responds_silent
    (responds_updateRow (fun _ _ => rfl) (by decide) (by decide))
  delete enrollmentId := responds_deletes (detaches_enrollment enrollmentId)

theorem users_responsive {libraries : Libraries} (mine : LocksMine me store) :
    Responsive allowed (fun _ _ => False) me (userEndpoints libraries)
      store where
  create payload := nomatch payload
  read _ userId := by
    refine responds_silent (responds_selected fun _ => ?_)
    cases store.db.tables.users.find? userId with
    | none => exact responds_throw (by decide)
    | some user => exact finishes_pure user trivial
  list _ _ _ := responds_silent responds_select
  update update userId :=
    responds_silent (responds_updateUser mine update userId)
  delete userId := responds_silent (responds_deleteUser mine userId)

end Tables

/-! ## All endpoints -/

/-- The servers answer, no computation raises anything and the job id is
fresh. -/
structure ServersAnswer (store : Store) (choice : Choice) : Prop where
  done : choice.call = .done
  calm : choice.fault = none
  fresh : store.queue.jobs.find? choice.uuid = none

instance (store : Store) : Answered (ServersAnswer store) :=
  ⟨fun _ undisturbed => undisturbed.done⟩

/-- What a request may raise beside the errors of the client. -/
def Crashes (libraries : Libraries) (tables : Tables) : Route → Exc → Prop
  | .courseSchedule route, exc => ScheduleCrashes tables route exc
  | .student route, exc => StudentCrashes libraries tables route exc
  | .loginUser userLogin, exc => ∃ user ∈ tables.users.rows,
      user.email = libraries.lower userLogin.email ∧
        libraries.verifyPassword userLogin.password user.passwordHash =
          .error exc
  | _, _ => False

def Unlocked (me : Nat) (store : Store) : Prop :=
  ∀ userId, store.userLocks userId ≠ some me

theorem unlocked_releaseLocks (me : Nat) (store : Store) :
    Unlocked me (store.releaseLocks me) := by
  intro userId held
  simp only [Store.releaseLocks] at held
  split at held
  · cases held
  · rename_i other
    exact other held

section Routes

variable {me : Nat} {store : Store} {crash : Exc → Prop}

theorem finishes_limited :
    Finishes (ServersAnswer store) me limited (fun _ later => later = store)
      (RefusedWrite store) store := by
  refine finishes_bind (finishes_command fun choice undisturbed => ?_)
  rw [undisturbed.calm]
  exact finishes_pure () rfl

theorem responds_healthCheck :
    Responds (ServersAnswer store) crash me healthCheck store :=
  finishes_bind (finishes_tryCatch (finishes_bind (finishes_query
    (finishes_pure _ (finishes_bind (finishes_command fun _ _ =>
      finishes_pure _ trivial))))))

theorem finishes_transcribes {studentId : Id} :
    Finishes (ServersAnswer store) me (generateStudentTranscript studentId)
      (fun _ later => later = store) (RefusedWrite store) store := by
  refine finishes_mono Services.Gpa.finishes_generateStudentTranscript
    (fun _ _ transcribed => transcribed.1) ?_
  rintro exc later ⟨_, choice, answers, fault⟩
  rw [answers.calm] at fault
  cases fault

theorem responds_getTranscript (studentId : Id) (user : User) :
    Responds (ServersAnswer store) crash me (getTranscript studentId user)
      store := by
  refine responds_selected fun _ => ?_
  cases store.db.tables.students.find? studentId with
  | none => exact responds_throw (by decide)
  | some student =>
      refine responds_checked (by decide)
        (responds_bind finishes_transcribes fun transcript => ?_)
      cases transcript with
      | none => exact responds_throw (by decide)
      | some transcript => exact finishes_pure transcript trivial

theorem finishes_exportTranscriptAsync (studentId : Id) (user : User) :
    Finishes (ServersAnswer store) me (exportTranscriptAsync studentId user)
      (fun _ _ => True) (fun exc later => ClientError exc ∧ later = store)
      store := by
  refine finishes_bind (finishes_select (fun _ => ?_)
    fun _ => ⟨by decide, rfl⟩)
  cases store.db.tables.students.find? studentId with
  | none => exact finishes_throw _ ⟨by decide, rfl⟩
  | some student =>
      dsimp only
      split
      · exact finishes_throw _ ⟨by decide, rfl⟩
      refine finishes_bind (finishes_command fun drawn undisturbed =>
        finishes_bind (finishes_transaction ?_ ?_))
      · intro choice done next _ body
        exact finishes_pure _ trivial
      · intro choice exc _ body
        have fresh : store.queue.jobs.find? (newJob drawn.uuid user.id
            studentId choice.now).jobId = none := undisturbed.fresh
        simp only [enqueueJob, fresh, dite_true] at body
        cases body

theorem responds_getJobStatus (jobId : String) (user : User) :
    Responds (ServersAnswer store) crash me (getJobStatus jobId user) store := by
  refine finishes_bind (finishes_query ?_)
  cases store.queue.jobs.find? jobId with
  | none => exact responds_throw (by decide)
  | some job =>
      exact responds_checked (by decide)
        (finishes_bind (finishes_query (finishes_pure _ trivial)))

theorem responds_getCurrentStudentEndpoint (user : User) :
    Responds (ServersAnswer store) crash me (getCurrentStudentEndpoint user)
      store := by
  refine responds_checked (by decide) (finishes_bind (finishes_query ?_))
  cases store.db.tables.students.rows.find? fun row =>
      decide (row.userId = some user.id) with
  | none => exact responds_throw (by decide)
  | some student => exact finishes_pure student trivial

theorem responds_loginUser (libraries : Libraries) (settings : Settings)
    (userLogin : UserLogin) :
    Responds (ServersAnswer store)
      (Crashes libraries store.db.tables (.loginUser userLogin)) me
      (loginUser libraries settings userLogin) store := by
  refine finishes_bind (finishes_query ?_)
  cases found : store.db.tables.users.rows.find? fun row =>
      decide (row.email = libraries.lower userLogin.email) with
  | none => exact responds_throw (by decide)
  | some user =>
      dsimp only
      cases verified : libraries.verifyPassword userLogin.password
          user.passwordHash with
      | error exc =>
          have asked : user.email = libraries.lower userLogin.email := by
            simpa using List.find?_some found
          exact finishes_throw _ ⟨.inr ⟨user, List.mem_of_find?_eq_some found,
            asked, verified⟩, rfl⟩
      | ok matches_ =>
          cases matches_ with
          | false => exact responds_throw (by decide)
          | true =>
              exact finishes_bind (finishes_command fun _ _ =>
                finishes_pure _ trivial)

theorem responds_program (mine : LocksMine me store) (libraries : Libraries)
    (settings : Settings) (credentials : Option String) (route : Route) :
    Responds (ServersAnswer store) (Crashes libraries store.db.tables route) me
      (route.program libraries settings credentials) store := by
  cases route with
  | healthCheck => exact responds_silent responds_healthCheck
  | getTranscript studentId =>
      exact responds_bind finishes_requireRoles fun user =>
        responds_silent (responds_getTranscript studentId user)
  | exportTranscriptAsync studentId =>
      refine responds_bind finishes_requireRoles fun user =>
        responds_silent (finishes_mono
          (finishes_exportTranscriptAsync studentId user)
          (fun _ _ _ => trivial) ?_)
      rintro exc later ⟨client, rfl⟩
      exact fails_refused ⟨client, rfl⟩
  | getJobStatus jobId =>
      exact responds_bind finishes_requireRoles fun user =>
        responds_silent (responds_getJobStatus jobId user)
  | college route =>
      exact Responsive.responds colleges_responsive libraries credentials route
  | course route =>
      exact Responsive.responds courses_responsive libraries credentials route
  | courseOffering route =>
      exact Responsive.responds courseOfferings_responsive libraries
        credentials route
  | department route =>
      exact Responsive.responds departments_responsive libraries
        credentials route
  | teacher route =>
      exact Responsive.responds teachers_responsive libraries credentials route
  | student route =>
      exact Responsive.responds students_responsive libraries credentials route
  | linkStudentUser studentId userId =>
      exact responds_bind finishes_requireRoles fun _ =>
        responds_silent (responds_linkStudentToUser studentId userId)
  | enrollment route =>
      exact Responsive.responds enrollments_responsive libraries
        credentials route
  | courseSchedule route =>
      exact Responsive.responds courseSchedules_responsive libraries
        credentials route
  | getCurrentUser =>
      exact responds_silent (finishes_mono finishes_getCurrentUser
        (fun _ _ _ => trivial) fun _ _ refused => fails_refused refused)
  | updateCurrentUser userUpdate =>
      refine finishes_bind (finishes_mono finishes_getCurrentUser ?_
        fun _ _ refused => fails_refused refused)
      rintro user later ⟨rfl, found⟩
      exact responds_silent (responds_updateUserMe mine userUpdate found)
  | getCurrentStudent =>
      refine finishes_bind (finishes_mono finishes_getCurrentUser ?_
        fun _ _ refused => fails_refused refused)
      rintro user later ⟨rfl, _⟩
      exact responds_silent (responds_getCurrentStudentEndpoint user)
  | user route =>
      exact Responsive.responds (users_responsive mine) libraries
        credentials route
  | registerUser payload =>
      exact responds_bind finishes_limited fun _ =>
        responds_silent (responds_registerUser payload)
  | loginUser userLogin =>
      exact responds_bind finishes_limited fun _ =>
        responds_silent (responds_loginUser libraries settings userLogin)

/-- `get_db` rolls back behind the request and releases its locks. -/
theorem finishes_getDb {allowed : Choice → Prop} {request : Py Unit}
    {fail : Exc → Store → Prop}
    (released : ∀ exc later, fail exc later →
      fail exc (later.releaseLocks me))
    (finishes : Finishes allowed me request (fun _ _ => True) fail store) :
    Finishes allowed me (getDb request) (fun _ later => Unlocked me later)
      (fun exc later => fail exc later ∧ Unlocked me later) store := by
  refine finishes_withFinally (finishes_tryCatch (finishes_mono finishes ?_ ?_))
  · intro value later _
    exact finishes_command fun _ _ => unlocked_releaseLocks me later
  · intro exc later failed
    refine finishes_bind (finishes_command fun _ _ => finishes_throw exc
      (finishes_command fun _ _ => ?_))
    exact ⟨released _ _ (released _ _ failed), unlocked_releaseLocks me _⟩

theorem finishes_program (mine : LocksMine me store) (libraries : Libraries)
    (settings : Settings) (credentials : Option String) (route : Route) :
    Finishes (ServersAnswer store) me
      (route.program libraries settings credentials) (fun _ _ => True)
      (fun exc later =>
        Fails (Crashes libraries store.db.tables route) store exc later ∧
          later.queue = store.queue) store := by
  by_cases exports : ∃ studentId, route = .exportTranscriptAsync studentId
  · obtain ⟨studentId, rfl⟩ := exports
    have leaves : Leaves Store.queue
        (requireAdminOrUser libraries credentials) :=
      leaves_requireRoles _ credentials
    refine finishes_bind (finishes_mono
      (finishes_keeps leaves finishes_requireRoles) ?_ ?_)
    · rintro user later ⟨rfl, _⟩
      refine finishes_bind (finishes_mono
        (finishes_exportTranscriptAsync studentId user)
        (fun _ _ _ => finishes_pure () trivial) ?_)
      rintro exc after ⟨client, rfl⟩
      exact ⟨fails_refused ⟨client, rfl⟩, rfl⟩
    · rintro exc later ⟨refused, same⟩
      exact ⟨fails_refused refused, same⟩
  · have leaves : Leaves Store.queue
        (route.program libraries settings credentials) :=
      leaves_program queue_besideDatabase credentials route
        fun studentId isExport => exports ⟨studentId, isExport⟩
    exact finishes_mono (finishes_keeps leaves
      (responds_program mine libraries settings credentials route))
      (fun _ _ _ => trivial) fun _ _ failed => failed

end Routes

/-- Every request that has the servers to itself and finds no row locked ends
without waiting and leaves no row locked.  It fails with a 4xx response, or
because the times of a schedule cannot be compared, a stored student is not
valid or a stored hash cannot be verified; it has then changed neither the
tables nor the queue. -/
theorem requests_answered (libraries : Libraries) (settings : Settings)
    (credentials : Option String) (route : Route) (me : Nat) (store : Store)
    (free : LocksMine me store) :
    Finishes (ServersAnswer store) me
      (route.serve libraries settings credentials)
      (fun _ later => Unlocked me later)
      (fun exc later =>
        (Fails (Crashes libraries store.db.tables route) store exc later ∧
          later.queue = store.queue) ∧ Unlocked me later) store :=
  finishes_getDb (fun _ _ failed => failed)
    (finishes_program free libraries settings credentials route)

/-- A user asks for the deletion of an account. -/
theorem requests_answered_asking :
    Finishes (ServersAnswer linkedStore) 0
      ((Route.user (.delete 2)).serve sampleLibraries .default (some "first"))
      (fun _ later => Unlocked 0 later)
      (fun exc later =>
        (Fails (Crashes sampleLibraries linkedStore.db.tables
            (.user (.delete 2))) linkedStore exc later ∧
          later.queue = linkedStore.queue) ∧ Unlocked 0 later) linkedStore :=
  requests_answered sampleLibraries .default (some "first")
    (.user (.delete 2)) 0 linkedStore nofun

end SystemUni.Routers.Responses
