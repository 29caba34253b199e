import SystemUni.Application
import SystemUni.Interleaving.Linearization
import SystemUni.Routers.Privilege
import SystemUni.Runtime.Atomicity

/-!
# Requests are atomic

Every endpoint commits at most once.  This is checked endpoint by endpoint,
for any interference and any way the calls to the database may end.
-/

set_option autoImplicit false

namespace SystemUni.Routers.Atomicity

open Interleaving
open SystemUni.Runtime.Errors
open SystemUni.Runtime.External
open SystemUni.Runtime.Statements
open SystemUni.Runtime.Rules
open SystemUni.Runtime.Atomicity
open SystemUni.Models.Rows
open SystemUni.Models.Changes
open SystemUni.Models.Jobs
open SystemUni.Models.Schema
open SystemUni.Security.Auth
open SystemUni.Crud.User
open SystemUni.Crud.Deletion
open SystemUni.Crud.Rows
open SystemUni.Crud.Student
open SystemUni.Crud.Enrollment
open SystemUni.Crud.CourseSchedule
open SystemUni.Routers.Main
open SystemUni.Routers.Reports
open SystemUni.Routers.Api
open SystemUni.Routers.Frame
open SystemUni.Routers.Privilege
open SystemUni.Accounts.Discipline
open SystemUni.Accounts.Frame
open SystemUni.Application

/-! ## Scope -/

/-- A session takes row locks for itself only. -/
def TakesOwnLocks (me : Nat) (before after : Store) : Prop :=
  ∀ userId session, after.userLocks userId = some session →
    before.userLocks userId = some session ∨ session = me

theorem TakesOwnLocks.of_same {me : Nat} {before after : Store}
    (same : after.userLocks = before.userLocks) :
    TakesOwnLocks me before after :=
  fun _ _ locked => .inl (same ▸ locked)

/-- What a request does to the committed database, and to row locks. -/
def requestScope (condition : Condition university) :
    Scope university (Tables × Queue) where
  view := database
  condition := condition
  law me _ _ before after := TakesOwnLocks me before after

theorem requests_idle (condition : Condition university) :
    Idles (requestScope condition) :=
  fun _ _ _ _ => .of_same rfl

/-- All but the cache. -/
def lasting (store : Store) : Database × Queue × (Id → Option Nat) :=
  (store.db, store.queue, store.userLocks)

theorem lasting_still (condition : Condition university) (me : Nat)
    (label : Label) (choice : Choice) (before after : Store)
    (same : lasting after = lasting before) :
    (requestScope condition).law me label choice before after ∧
      database after = database before := by
  obtain ⟨sameTables, sameQueue, sameLocks⟩ :
      after.db = before.db ∧ after.queue = before.queue ∧
        after.userLocks = before.userLocks := by
    simpa [lasting] using same
  refine ⟨.of_same sameLocks, ?_⟩
  exact database_eq (congrArg Database.tables sameTables) sameQueue

section Endpoints

variable {α β ρ δ : Type} {key : ρ → Id} {condition : Condition university}
  {fine : Exc → Prop} {libraries : Libraries} {settings : Settings}

/-! ## Parts of requests -/

theorem atomic_reads {request : Py α} {post : α → Prop} {fail : Exc → Prop}
    (leaves : Leaves lasting request) :
    Atomic (requestScope condition) request post fail :=
  atomic_of_leaves (lasting_still condition) leaves

theorem atomic_then {request : Py α} {rest : α → Py β} {post : β → Prop}
    {fail : Exc → Prop} (leaves : Leaves lasting request)
    (second : ∀ value, Atomic (requestScope condition) (rest value) post fail) :
    Atomic (requestScope condition) (request >>= rest) post fail :=
  atomic_bind (atomic_reads leaves) second

theorem atomic_checked {refused : Prop} [Decidable refused] {exc : Exc}
    {rest : Py α} {post : α → Prop} {fail : Exc → Prop}
    (atomic : Atomic (requestScope condition) rest post fail) :
    Atomic (requestScope condition) (do
      if refused then throw exc
      rest) post fail := by
  split
  · exact atomic_bind atomic_throw fun _ => atomic
  · exact atomic

/-- Nothing but what cannot change anything follows. -/
theorem atomic_answers {request : Py α} {answer : α → β}
    (atomic : Atomic (requestScope condition) request (fun _ => True) fine) :
    Atomic (requestScope condition) (do
      let value ← request
      return answer value) (fun _ => True) fine :=
  atomic_bind (Prog.atomic_mono request.run atomic fun result holds => by
    cases result with
    | ok value => exact settles_pure trivial
    | error exc => exact holds) fun _ => atomic_pure

theorem atomic_silent {request : Py α}
    (atomic : Atomic (requestScope condition) request (fun _ => True) fine) :
    Atomic (requestScope condition) (silent request) (fun _ => True) fine :=
  atomic_answers atomic

theorem atomic_committed {commit : Py β} {rest : β → Py α}
    (commits : Atomic (requestScope condition) commit (fun _ => True) fine)
    (settles : ∀ value, Settles (requestScope condition) (rest value)
      (fun _ => True) fine) :
    Atomic (requestScope condition) (commit >>= rest) (fun _ => True) fine := by
  refine atomic_bind (Prog.atomic_mono commit.run commits ?_)
    fun value => (settles value).atomic _
  intro result holds
  cases result with
  | ok value => exact settles value
  | error exc => exact holds

theorem settles_rollback {post : Unit → Prop} {fail : Exc → Prop}
    (returns : post ()) :
    Settles (requestScope condition) rollback post fail :=
  settles_command
    (fun _ _ _ _ _ locked => .inl (releaseLocks_locked locked).2)
    (fun _ _ _ => rfl) fun _ _ _ => returns

theorem settles_rollsBack {exc : Exc} {post : α → Prop} {fail : Exc → Prop}
    (holds : fail exc) :
    Settles (requestScope condition) (do
      rollback
      throw exc : Py α) post fail :=
  settles_bind (settles_rollback (settles_throw holds))

section Handlers

variable {other : Exc → Prop}
  (aftermath : Aftermath (requestScope condition).condition other)

include aftermath

/-- The clauses are for errors of the database that the aftermath does not
have. -/
theorem settles_handled {handler : Exc → Py α} (handles : Handles handler)
    (exc : Exc) (holds : other exc) :
    Settles (requestScope condition) (handler exc) (fun _ => True) other := by
  rcases handles exc with same | ⟨kind, text, reported, rfl, handled, same⟩
  · rw [same]
    exact settles_throw holds
  · rw [same]
    rcases aftermath.unhandled kind text holds with disconnected | any
    · exact absurd disconnected handled
    · exact settles_rollsBack (any reported)

theorem atomic_catches {body : Py α} {handler : Exc → Py α}
    (handles : Handles handler)
    (atomic : Atomic (requestScope condition) body (fun _ => True) other) :
    Atomic (requestScope condition) (tryCatch body handler) (fun _ => True)
      other :=
  atomic_handled aftermath
    (fun aftermath exc holds => settles_handled aftermath handles exc holds)
    atomic

end Handlers

/-! ## Rows -/

section Writes

variable (aftermath : Aftermath (requestScope condition).condition fine)

include aftermath

theorem atomic_commits {label : Label} {ready : Nat → Store → Bool}
    {body : Nat → Choice → Store → Except Exc (α × Store)}
    (locks : ∀ me choice store value next,
      body me choice store = .ok (value, next) →
        TakesOwnLocks me store next) :
    Atomic (requestScope condition) (lockingTransaction label ready body)
      (fun _ => True) fine :=
  atomic_lockingTransaction (requests_idle condition) locks
    (fun _ _ _ _ _ _ => trivial)
    fun choice store admitted kind text lost =>
      aftermath.calls label choice store admitted kind text (.inr lost)

theorem atomic_flushes {label : Label}
    {flush : Tables → Except SqlError Tables} :
    Atomic (requestScope condition)
      (transaction label fun _ store => store.commit flush)
      (fun _ => True) fine := by
  refine atomic_commits aftermath ?_
  intro me choice store value next body
  obtain ⟨db, _, rfl⟩ := Store.commit_ok body
  exact .of_same rfl

theorem atomic_inserts {flush : Choice → Tables → Except SqlError Tables}
    {label : Label} {answer : Choice → α} :
    Atomic (requestScope condition)
      (transaction label fun choice store =>
        (store.commit (flush choice)).map fun done =>
          (answer choice, done.2)) (fun _ => True) fine := by
  refine atomic_commits aftermath ?_
  intro me choice store value next body
  obtain ⟨done, committed, becomes⟩ := mapped_ok body
  cases becomes
  obtain ⟨db, _, same⟩ := Store.commit_ok committed
  rw [same]
  exact .of_same rfl

theorem settles_looksUp {read : Store → Option ρ} {rest : Option ρ → Py α}
    (missing : Settles (requestScope condition) (rest none) (fun _ => True)
      fine)
    (found : ∀ row, Settles (requestScope condition) (rest (some row))
      (fun _ => True) fine) :
    Settles (requestScope condition) (query read >>= rest) (fun _ => True)
      fine := by
  refine settles_bind (settles_query (requests_idle condition) ?_ ?_)
  · intro store
    cases read store with
    | none => exact missing
    | some row => exact found row
  · intro choice store admitted
    exact aftermath.calls .query choice store admitted

theorem settles_refreshRow (access : TableAccess key) (rowId : Id) :
    Settles (requestScope condition) (refreshRow access rowId)
      (fun _ => True) fine :=
  settles_looksUp aftermath (settles_throw aftermath.refresh)
    fun _ => settles_pure trivial

theorem settles_refreshUser (userId : Id) :
    Settles (requestScope condition) (refreshUser userId) (fun _ => True)
      fine :=
  settles_looksUp aftermath (settles_throw aftermath.refresh)
    fun _ => settles_pure trivial

theorem settles_refreshStudent (studentId : Id) :
    Settles (requestScope condition) (refreshStudent studentId)
      (fun _ => True) fine :=
  settles_looksUp aftermath (settles_throw aftermath.refresh)
    fun _ => settles_pure trivial

theorem settles_refreshEnrollment (enrollmentId : Id) :
    Settles (requestScope condition) (refreshEnrollment enrollmentId)
      (fun _ => True) fine :=
  settles_looksUp aftermath (settles_throw aftermath.refresh)
    fun _ => settles_pure trivial

theorem atomic_createRow (access : TableAccess key) (fits : ρ → Bool)
    (errors : WriteErrors) (row : Choice → ρ) :
    Atomic (requestScope condition) (createRow access fits errors row)
      (fun _ => True) fine :=
  atomic_catches aftermath (handles_writeErrors errors)
    (atomic_committed (atomic_inserts aftermath)
      fun _ => settles_refreshRow aftermath access _)

theorem atomic_updateRow (access : TableAccess key) (notFound : Exc)
    (errors : WriteErrors) (change : ρ → RowChange key)
    (check : ρ → Except Exc Unit) (rowId : Id) :
    Atomic (requestScope condition)
      (updateRow access notFound errors change check rowId)
      (fun _ => True) fine := by
  refine atomic_then leaves_select fun found => ?_
  cases found with
  | none => exact atomic_throw
  | some row =>
      simp only
      cases check row with
      | error exc => exact atomic_throw
      | ok passed =>
          exact atomic_catches aftermath (handles_writeErrors errors)
            (atomic_committed (atomic_flushes aftermath)
              fun _ => settles_refreshRow aftermath access _)

theorem atomic_deleteRow (deletion : RowDeletion ρ δ) :
    Atomic (requestScope condition) (deleteRow deletion) (fun _ => True)
      fine := by
  refine atomic_then leaves_query fun found => ?_
  cases found with
  | none => exact atomic_throw
  | some row =>
      exact atomic_committed
        (atomic_catches aftermath (handles_referenced deletion.referenced)
          (atomic_then leaves_query fun _ => atomic_flushes aftermath))
        fun _ => settles_pure trivial

/-! ## Endpoints of tables -/

theorem atomic_deletes (deletion : RowDeletion ρ δ) {message : String} :
    Atomic (requestScope condition) (silent do
      let _ ← deleteRow deletion
      return message) (fun _ => True) fine :=
  atomic_silent (atomic_answers (atomic_deleteRow aftermath deletion))

end Writes

/-- Every endpoint of the table commits at most once. -/
structure AtomicEndpoints {ι υ : Type} (condition : Condition university)
    (fine : Exc → Prop) (endpoints : TableEndpoints ι υ) : Prop where
  create : ∀ payload, Atomic (requestScope condition)
    (endpoints.create payload) (fun _ => True) fine
  read : ∀ user rowId, Leaves lasting (endpoints.read user rowId)
  list : ∀ user skip limit, Leaves lasting (endpoints.list user skip limit)
  update : ∀ payload rowId, Atomic (requestScope condition)
    (endpoints.update payload rowId) (fun _ => True) fine
  delete : ∀ rowId, Atomic (requestScope condition)
    (endpoints.delete rowId) (fun _ => True) fine

theorem AtomicEndpoints.program {ι υ : Type} {endpoints : TableEndpoints ι υ}
    (atomic : AtomicEndpoints condition fine endpoints)
    (credentials : Option String) (route : TableRoute ι υ) :
    Atomic (requestScope condition)
      (endpoints.program libraries credentials route) (fun _ => True) fine := by
  cases route with
  | create payload =>
      exact atomic_then (leaves_requireRoles _ credentials)
        fun _ => atomic.create payload
  | read rowId =>
      exact atomic_then (leaves_requireRoles _ credentials)
        fun user => atomic_reads (atomic.read user rowId)
  | list skip limit =>
      exact atomic_then (leaves_requireRoles _ credentials)
        fun user => atomic_reads (atomic.list user skip limit)
  | update payload rowId =>
      exact atomic_then (leaves_requireRoles _ credentials)
        fun _ => atomic.update payload rowId
  | delete rowId =>
      exact atomic_then (leaves_requireRoles _ credentials)
        fun _ => atomic.delete rowId

section Tables

variable (aftermath : Aftermath (requestScope condition).condition fine)

include aftermath

theorem colleges_atomic :
    AtomicEndpoints condition fine collegeEndpoints where
  create _ := atomic_silent (atomic_createRow aftermath _ _ _ _)
  read _ collegeId := leaves_silent (leaves_readRow _ _ collegeId)
  list _ skip limit := leaves_silent (leaves_readRows _ skip limit)
  update _ _ := atomic_silent (atomic_updateRow aftermath _ _ _ _ _ _)
  delete _ := atomic_deletes aftermath _

theorem courses_atomic : AtomicEndpoints condition fine courseEndpoints where
  create _ := atomic_silent (atomic_createRow aftermath _ _ _ _)
  read _ courseId := leaves_silent (leaves_readRow _ _ courseId)
  list _ skip limit := leaves_silent (leaves_readRows _ skip limit)
  update _ _ := atomic_silent (atomic_updateRow aftermath _ _ _ _ _ _)
  delete _ := atomic_deletes aftermath _

theorem courseOfferings_atomic :
    AtomicEndpoints condition fine courseOfferingEndpoints where
  create _ := atomic_silent (atomic_createRow aftermath _ _ _ _)
  read _ courseOfferingId :=
    leaves_silent (leaves_readRow _ _ courseOfferingId)
  list _ skip limit := leaves_silent (leaves_readRows _ skip limit)
  update _ _ := atomic_silent (atomic_updateRow aftermath _ _ _ _ _ _)
  delete _ := atomic_deletes aftermath _

theorem departments_atomic :
    AtomicEndpoints condition fine departmentEndpoints where
  create _ := atomic_silent (atomic_createRow aftermath _ _ _ _)
  read _ departmentId := leaves_silent (leaves_readRow _ _ departmentId)
  list _ skip limit := leaves_silent (leaves_readRows _ skip limit)
  update _ _ := atomic_silent (atomic_updateRow aftermath _ _ _ _ _ _)
  delete _ := atomic_deletes aftermath _

theorem teachers_atomic : AtomicEndpoints condition fine teacherEndpoints where
  create _ := atomic_silent (atomic_createRow aftermath _ _ _ _)
  read _ teacherId := leaves_silent (leaves_readRow _ _ teacherId)
  list _ skip limit := leaves_silent (leaves_readRows _ skip limit)
  update _ _ := atomic_silent (atomic_updateRow aftermath _ _ _ _ _ _)
  delete _ := atomic_deletes aftermath _

theorem atomic_createCourseSchedule (courseSchedule : CourseScheduleCreate) :
    Atomic (requestScope condition) (createCourseSchedule courseSchedule)
      (fun _ => True) fine := by
  unfold createCourseSchedule
  split
  · exact atomic_throw
  · exact atomic_createRow aftermath _ _ _ _

theorem courseSchedules_atomic :
    AtomicEndpoints condition fine courseScheduleEndpoints where
  create courseSchedule :=
    atomic_silent (atomic_createCourseSchedule aftermath courseSchedule)
  read _ courseScheduleId :=
    leaves_silent (leaves_readRow _ _ courseScheduleId)
  list _ skip limit := leaves_silent (leaves_readRows _ skip limit)
  update _ _ := atomic_silent (atomic_updateRow aftermath _ _ _ _ _ _)
  delete _ := atomic_deletes aftermath _

/-! ### Enrollments -/

theorem atomic_createEnrollment (enrollment : EnrollmentCreate) :
    Atomic (requestScope condition) (createEnrollment enrollment)
      (fun _ => True) fine := by
  have inserts : Atomic (requestScope condition) (tryCatch
      (do
        let newEnrollment ← commitNewEnrollment enrollment
        refreshEnrollment newEnrollment.id)
      handleEnrollmentErrors) (fun _ => True) fine :=
    atomic_catches aftermath handles_enrollmentErrors
      (atomic_committed (atomic_inserts aftermath)
        fun _ => settles_refreshEnrollment aftermath _)
  exact atomic_then leaves_select fun student => atomic_checked
    (atomic_then leaves_select fun courseOffering => atomic_checked
      (atomic_then leaves_select fun existingEnrollment => atomic_checked
        (atomic_then leaves_select fun existingCode =>
          atomic_checked inserts)))

theorem enrollments_atomic :
    AtomicEndpoints condition fine enrollmentEndpoints where
  create enrollment :=
    atomic_silent (atomic_createEnrollment aftermath enrollment)
  read user enrollmentId :=
    leaves_silent (leaves_readEnrollment enrollmentId user)
  list user skip limit := leaves_silent (leaves_readEnrollments user skip limit)
  update _ _ := atomic_silent (atomic_updateRow aftermath _ _ _ _ _ _)
  delete _ := atomic_deletes aftermath _

/-! ### Students -/

omit aftermath in
theorem settles_invalidates {studentId : Id} {mark : WriteMark} {answer : α} :
    Settles (requestScope condition) (do
      invalidateStudentCache studentId mark
      return answer) (fun _ => True) fine :=
  settles_bind (settles_command (fun _ _ _ => .of_same rfl)
    (fun _ _ _ => rfl) fun _ _ _ => settles_pure trivial)

theorem atomic_createStudent (student : StudentCreate) :
    Atomic (requestScope condition) (createStudent student) (fun _ => True)
      fine :=
  atomic_catches aftermath handles_createErrors
    (atomic_committed (atomic_inserts aftermath)
      fun _ => settles_refreshStudent aftermath _)

theorem atomic_updateStudent (studentUpdate : StudentUpdate) (studentId : Id) :
    Atomic (requestScope condition) (updateStudent studentUpdate studentId)
      (fun _ => True) fine := by
  refine atomic_then leaves_query fun found => ?_
  cases found with
  | none => exact atomic_throw
  | some student =>
      exact atomic_checked (atomic_committed
        (atomic_catches aftermath handles_studentErrors
          (atomic_committed (atomic_flushes aftermath)
            fun _ => settles_refreshStudent aftermath _))
        fun _ => settles_invalidates)

theorem atomic_linkStudentToUser (studentId userId : Id) :
    Atomic (requestScope condition) (linkStudentToUser studentId userId)
      (fun _ => True) fine := by
  refine atomic_then leaves_query fun found => ?_
  cases found with
  | none => exact atomic_throw
  | some student =>
      refine atomic_then leaves_query fun foundUser => ?_
      cases foundUser with
      | none => exact atomic_throw
      | some user =>
          refine atomic_checked (atomic_then leaves_query fun linked =>
            atomic_checked (atomic_committed
              (atomic_catches aftermath handles_linkErrors
                (atomic_committed (atomic_flushes aftermath) fun _ => ?_))
              fun _ => settles_invalidates))
          exact settles_bind (settles_mono
            (settles_refreshStudent aftermath student.id)
            (fun _ _ => settles_bind (settles_mono
              (settles_refreshUser aftermath user.id)
              (fun _ _ => settles_pure trivial) fun _ holds => holds))
            fun _ holds => holds)

theorem atomic_deleteStudent (studentId : Id) :
    Atomic (requestScope condition) (deleteStudent studentId) (fun _ => True)
      fine :=
  atomic_committed (atomic_deleteRow aftermath (deleteStudentRow studentId))
    fun _ => settles_invalidates

theorem students_atomic :
    AtomicEndpoints condition fine (studentEndpoints libraries) where
  create student := atomic_silent (atomic_createStudent aftermath student)
  read user studentId :=
    leaves_silent (leaves_readStudent (fun _ _ => rfl) studentId user)
  list user skip limit := leaves_silent (leaves_readStudents user skip limit)
  update update studentId :=
    atomic_silent (atomic_updateStudent aftermath update studentId)
  delete studentId := atomic_silent (atomic_deleteStudent aftermath studentId)

/-! ## Accounts -/

omit aftermath in
/-- Row locks are taken one by one, and nothing is written. -/
theorem settles_lockAdmins (ids : List Id) :
    Settles (requestScope condition) (lockAdmins ids) (fun _ => True)
      (fun _ => True) := by
  induction ids with
  | nil => exact settles_pure trivial
  | cons userId rest inductionHypothesis =>
      refine settles_bind (settles_lockingTransaction
        (requests_idle condition) ?_ (fun locked => ?_) fun _ => trivial)
      · intro me choice store locked next body
        split at body
        · cases body
          refine ⟨?_, rfl⟩
          intro other session held
          rcases lock_locked held with ⟨_, same⟩ | before
          · exact .inr same.symm
          · exact .inl before
        · cases body
          exact ⟨.of_same rfl, rfl⟩
      · exact settles_bind (settles_mono inductionHypothesis
          (fun _ _ => settles_pure trivial) fun _ _ => trivial)

omit aftermath in
theorem atomic_ensureAdminRemains (user : User) (nextRole : Option UserRole)
    {post : Unit → Prop} {fail : Exc → Prop} :
    Atomic (requestScope condition) (ensureAdminRemains user nextRole) post
      fail := by
  unfold ensureAdminRemains
  split
  · exact atomic_pure
  · refine atomic_then leaves_query fun snapshot => ?_
    have settles : Settles (requestScope condition) (do
        let adminIds ← lockAdmins snapshot
        if adminIds.length ≤ 1 then throw lastAdmin) (fun _ => True)
        (fun _ => True) := by
      refine settles_bind (settles_mono (settles_lockAdmins snapshot) ?_
        fun _ holds => holds)
      intro adminIds _
      split
      · exact settles_throw trivial
      · exact settles_pure trivial
    exact settles.atomic _

/-- A commit that ends the transaction of the session. -/
theorem atomic_releases {label : Label} {ready : Nat → Store → Bool}
    {flush : Tables → Except SqlError Tables} :
    Atomic (requestScope condition)
      (lockingTransaction label ready fun me _ store =>
        (store.releaseLocks me).commit flush) (fun _ => True) fine := by
  refine atomic_commits aftermath ?_
  intro me choice store value next body
  obtain ⟨db, _, rfl⟩ := Store.commit_ok body
  exact fun _ _ locked => .inl (releaseLocks_locked locked).2

theorem atomic_saveUser (user : User) (change : UserChange) :
    Atomic (requestScope condition)
      (tryCatch
        (do
          commitUser user change
          refreshUser user.id)
        handleUserErrors) (fun _ => True) fine :=
  atomic_catches aftermath handles_userErrors
    (atomic_committed (atomic_releases aftermath)
      fun _ => settles_refreshUser aftermath user.id)

theorem atomic_updateUser (userUpdate : UserUpdate) (userId : Id) :
    Atomic (requestScope condition) (updateUser libraries userUpdate userId)
      (fun _ => True) fine := by
  refine atomic_then leaves_query fun found => ?_
  cases found with
  | none => exact atomic_throw
  | some user =>
      exact atomic_bind (atomic_ensureAdminRemains user _)
        fun _ => atomic_then (leaves_hashOptional _)
          fun _ => atomic_saveUser aftermath user _

theorem atomic_updateUserMe (userUpdate : UserSelfUpdate)
    (currentUser : User) :
    Atomic (requestScope condition)
      (updateUserMe libraries userUpdate currentUser) (fun _ => True) fine :=
  atomic_then (leaves_hashOptional _)
    fun _ => atomic_saveUser aftermath currentUser _

theorem atomic_deleteUser (userId : Id) :
    Atomic (requestScope condition) (deleteUser userId) (fun _ => True)
      fine := by
  refine atomic_then leaves_query fun found => ?_
  cases found with
  | none => exact atomic_throw
  | some user =>
      exact atomic_bind (atomic_ensureAdminRemains user none)
        fun _ => atomic_committed
          (atomic_catches aftermath (handles_referenced userReferenced)
            (atomic_then leaves_query fun _ => atomic_releases aftermath))
          fun _ => settles_pure trivial

theorem users_atomic :
    AtomicEndpoints condition fine (userEndpoints libraries) where
  create payload := nomatch payload
  read _ userId := leaves_silent (leaves_readUser userId)
  list _ skip limit := leaves_silent (leaves_readUsers skip limit)
  update update userId :=
    atomic_silent (atomic_updateUser aftermath update userId)
  delete userId := atomic_silent (atomic_deleteUser aftermath userId)

theorem atomic_registerUser (user : UserRegister) :
    Atomic (requestScope condition) (registerUser libraries user)
      (fun _ => True) fine :=
  atomic_then (leaves_bind leaves_observe fun _ => leaves_pure)
    fun _ => atomic_catches aftermath handles_userErrors
      (atomic_committed (atomic_inserts aftermath)
        fun _ => settles_refreshUser aftermath _)

/-! ## All endpoints -/

theorem atomic_exportTranscriptAsync (studentId : Id) (user : User) :
    Atomic (requestScope condition) (exportTranscriptAsync studentId user)
      (fun _ => True) fine := by
  refine atomic_then leaves_select fun found => ?_
  cases found with
  | none => exact atomic_throw
  | some student =>
      refine atomic_checked (atomic_then leaves_observe fun jobId =>
        atomic_committed (atomic_commits aftermath ?_)
          fun _ => settles_pure trivial)
      intro me choice store done next body
      obtain ⟨queue, _, becomes⟩ := mapped_ok body
      cases becomes
      exact .of_same rfl

theorem atomic_program (credentials : Option String) (route : Route) :
    Atomic (requestScope condition)
      (route.program libraries settings credentials) (fun _ => True) fine := by
  cases route with
  | healthCheck => exact atomic_reads (leaves_silent leaves_healthCheck)
  | getTranscript studentId =>
      exact atomic_reads (leaves_bind (leaves_requireRoles _ credentials)
        fun user => leaves_silent (leaves_getTranscript studentId user))
  | exportTranscriptAsync studentId =>
      exact atomic_then (leaves_requireRoles _ credentials)
        fun user => atomic_silent
          (atomic_exportTranscriptAsync aftermath studentId user)
  | getJobStatus jobId =>
      exact atomic_reads (leaves_bind (leaves_requireRoles _ credentials)
        fun user => leaves_silent (leaves_getJobStatus jobId user))
  | college route => exact (colleges_atomic aftermath).program credentials route
  | course route => exact (courses_atomic aftermath).program credentials route
  | courseOffering route =>
      exact (courseOfferings_atomic aftermath).program credentials route
  | department route =>
      exact (departments_atomic aftermath).program credentials route
  | teacher route => exact (teachers_atomic aftermath).program credentials route
  | student route => exact (students_atomic aftermath).program credentials route
  | linkStudentUser studentId userId =>
      exact atomic_then (leaves_requireRoles _ credentials)
        fun _ => atomic_silent
          (atomic_linkStudentToUser aftermath studentId userId)
  | enrollment route =>
      exact (enrollments_atomic aftermath).program credentials route
  | courseSchedule route =>
      exact (courseSchedules_atomic aftermath).program credentials route
  | getCurrentUser =>
      exact atomic_reads (leaves_silent (leaves_getCurrentUser credentials))
  | updateCurrentUser userUpdate =>
      exact atomic_then (leaves_getCurrentUser credentials)
        fun user => atomic_silent
          (atomic_updateUserMe aftermath userUpdate user)
  | getCurrentStudent =>
      exact atomic_reads (leaves_bind (leaves_getCurrentUser credentials)
        fun user => leaves_silent (leaves_getCurrentStudentEndpoint user))
  | user route => exact (users_atomic aftermath).program credentials route
  | registerUser payload =>
      exact atomic_then leaves_limited
        fun _ => atomic_silent (atomic_registerUser aftermath payload)
  | loginUser userLogin =>
      exact atomic_reads (leaves_bind leaves_limited
        fun _ => leaves_silent (leaves_loginUser userLogin))

/-- Every request in its session. -/
theorem atomic_serve (credentials : Option String) (route : Route) :
    Atomic (requestScope condition)
      (route.serve libraries settings credentials) (fun _ => True) fine := by
  refine atomic_withFinally (settles_rollback trivial) ?_
  refine atomic_handled aftermath ?_ (atomic_program aftermath credentials route)
  intro other _ exc holds
  exact settles_rollsBack holds

end Tables

end Endpoints

/-! ## Runs -/

theorem AfterCommit.not_clientError {exc : Exc} (after : AfterCommit exc) :
    ¬ ClientError exc := by
  cases after with
  | connection text =>
      rintro ⟨_, below⟩
      simp [errorResponse, internalServerError] at below
  | gone =>
      rintro ⟨_, below⟩
      simp [errorResponse, internalServerError] at below

section Runs

variable (system : System university (Except Exc Unit))
  {libraries : Libraries} {settings : Settings} {credentials : Option String}
  {route : Route} {condition : Condition university} {thread : Nat}
  {first config next last : Config university (Except Exc Unit)}
  {label : Label} {choice : Choice}

/-- A request is atomic: whatever else runs and however calls to the database
end, no statement of it changes the committed database once another one has;
and as long as only connections fail, a request that is refused has changed
nothing. -/
theorem request_atomic
    (serving : first.threads[thread]? =
      some (route.serve libraries settings credentials).run)
    (before : Run system condition first config)
    (transition : Transition system config (.act thread label choice) next)
    (admitted : condition label choice config.store)
    (after : Run system condition next last) :
    (database next.store ≠ database config.store →
      ∀ final laterLabel laterChoice,
        Transition system last (.act thread laterLabel laterChoice) final →
        condition laterLabel laterChoice last.store →
          database final.store = database last.store) ∧
    ((∀ label choice store, condition label choice store →
        connectionsOnly label choice store) →
      ∀ exc, last.answer? thread = some (.error exc) →
        ClientError exc → database next.store = database config.store) := by
  constructor
  · intro changes final laterLabel laterChoice later laterAdmitted
    exact changes_once (requestScope condition)
      (atomic_serve (aftermath_any condition) credentials route) serving before
      transition admitted changes after later laterAdmitted
  · intro connections exc finished refused
    by_contra changes
    have happened : connectionsOnly label choice config.store :=
      connections label choice config.store admitted
    have answer := answers_after (requestScope connectionsOnly)
      (atomic_serve aftermath_connections credentials route) serving
      (before.weaken connections) transition happened changes
      (after.weaken connections) (Config.threads_of_answer? finished)
    exact AfterCommit.not_clientError answer refused

end Runs

/-! ### Two registrations under one name -/

def registration : UserRegister := ⟨"ali", "ali@uni.edu", "secret"⟩

def registering : Config university (Except Exc Unit) where
  store := sampleStore
  threads := [served none (.registerUser registration),
    served none (.registerUser registration)]

def answersAll (_ : Label) (choice : Choice) (_ : Store) : Bool :=
  decide (choice.call = .done)

theorem answersAll_connections (label : Label) (choice : Choice)
    (store : Store) (answers : answersAll label choice store = true) :
    connectionsOnly label choice store := by
  intro kind text fails
  rw [of_decide_eq_true answers] at fails
  rcases fails with failed | lost
  · cases failed
  · cases lost

/-- New accounts are numbered from 3 on. -/
def registered (threads : List Nat)
    (config : Config university (Except Exc Unit)) :
    Config university (Except Exc Unit) :=
  config.played sampleApplication answersAll
    (threads.map fun thread => ⟨thread, { newId := 3 + thread }⟩)

/-- The first has its account, the second is about to insert its own. -/
def overtakenRegistration : Config university (Except Exc Unit) :=
  registered [0, 1, 0, 1, 0] registering

theorem registered_run (threads : List Nat)
    (config : Config university (Except Exc Unit))
    (possible : (config.play sampleApplication answersAll
      (threads.map fun thread => ⟨thread, { newId := 3 + thread }⟩)).isSome =
        true) :
    Run sampleApplication connectionsOnly config
      (registered threads config) :=
  config.played_run sampleApplication answersAll connectionsOnly
    answersAll_connections _ possible

theorem request_atomic_registration :
    database (registered [1] overtakenRegistration).store =
      database overtakenRegistration.store :=
  (request_atomic sampleApplication rfl
    (registered_run [0, 1, 0, 1, 0] registering (by decide +kernel))
    (overtakenRegistration.played_transition sampleApplication answersAll
      ⟨1, { newId := 4 }⟩ (by decide +kernel)
      (show _ = some (Label.account .registerUser) by decide +kernel))
    (answersAll_connections _ _ _ rfl)
    (registered_run [1, 1, 1] (registered [1] overtakenRegistration)
      (by decide +kernel))).2
    (fun _ _ _ connections => connections) userConflict (by decide +kernel)
    (by decide)

end SystemUni.Routers.Atomicity
