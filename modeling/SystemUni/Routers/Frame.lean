import SystemUni.Routers.Api
import SystemUni.Students.Frame
import SystemUni.Workers.Frame

/-!
# What the endpoints leave alone

A read leaves everything alone, and what the registrar writes does not show in
the students.
-/

set_option autoImplicit false

namespace SystemUni.Routers.Frame

open Interleaving
open SystemUni.Runtime.Errors
open SystemUni.Runtime.External
open SystemUni.Runtime.Statements
open SystemUni.Runtime.Rules
open SystemUni.Models.Rows
open SystemUni.Models.Jobs
open SystemUni.Models.Schema
open SystemUni.Security.Auth
open SystemUni.Crud.User
open SystemUni.Crud.Deletion
open SystemUni.Crud.Rows
open SystemUni.Crud.Student
open SystemUni.Crud.Enrollment
open SystemUni.Crud.Registrar
open SystemUni.Crud.RegistrarRows
open SystemUni.Crud.CourseSchedule
open SystemUni.Routers.Reports
open SystemUni.Routers.Api
open SystemUni.Accounts.Frame
open SystemUni.Students.Frame
open SystemUni.Students.Laws
open SystemUni.Workers.Queue
open SystemUni.Workers.Frame

section Reads

variable {ν α ρ : Type} {key : ρ → Id} {view : Store → ν}
  {libraries : Libraries}

theorem leaves_silent {request : Py α} (leaves : Leaves view request) :
    Leaves view (silent request) :=
  leaves_bind leaves fun _ => leaves_pure

theorem leaves_requireRoles (allowedRoles : List UserRole)
    (credentials : Option String) :
    Leaves view (requireRoles libraries allowedRoles credentials) := by
  refine leaves_bind (leaves_getCurrentUser credentials) fun user => ?_
  split
  · exact leaves_throw
  · exact leaves_pure

theorem leaves_checked {refused : Prop} [Decidable refused] {exc : Exc}
    {rest : Py α} (leaves : Leaves view rest) :
    Leaves view (do
      if refused then throw exc
      rest) := by
  split
  · exact leaves_bind leaves_throw fun _ => leaves
  · exact leaves

theorem leaves_readRow (access : TableAccess key) (notFound : Exc)
    (rowId : Id) : Leaves view (readRow access notFound rowId) := by
  refine leaves_bind leaves_select fun found => ?_
  cases found with
  | none => exact leaves_throw
  | some row => exact leaves_pure

theorem leaves_readRows (access : TableAccess key) (skip limit : Nat) :
    Leaves view (readRows access skip limit) := leaves_select

theorem leaves_readUser (userId : Id) : Leaves view (readUser userId) := by
  refine leaves_bind leaves_select fun found => ?_
  cases found with
  | none => exact leaves_throw
  | some user => exact leaves_pure

theorem leaves_readUsers (skip limit : Nat) :
    Leaves view (readUsers skip limit) := leaves_select

theorem leaves_readStudents (user : User) (skip limit : Nat) :
    Leaves view (readStudents user skip limit) :=
  leaves_checked leaves_select

theorem leaves_readEnrollment (enrollmentId : Id) (user : User) :
    Leaves view (readEnrollment enrollmentId user) := by
  refine leaves_checked (leaves_bind leaves_select fun found => ?_)
  cases found with
  | none => exact leaves_throw
  | some enrollment => exact leaves_pure

theorem leaves_readEnrollments (user : User) (skip limit : Nat) :
    Leaves view (readEnrollments user skip limit) :=
  leaves_checked leaves_select

theorem leaves_getCurrentStudentEndpoint (user : User) :
    Leaves view (getCurrentStudentEndpoint user) := by
  refine leaves_checked (leaves_bind leaves_query fun found => ?_)
  cases found with
  | none => exact leaves_throw
  | some student => exact leaves_pure

theorem leaves_getTranscript (studentId : Id) (user : User) :
    Leaves view (getTranscript studentId user) := by
  refine leaves_bind leaves_select fun found => ?_
  cases found with
  | none => exact leaves_throw
  | some student =>
      simp only
      split
      · exact leaves_throw
      refine leaves_bind (leaves_generate studentId)
        fun transcript => ?_
      cases transcript with
      | none => exact leaves_throw
      | some transcript => exact leaves_pure

theorem leaves_getJobStatus (jobId : String) (user : User) :
    Leaves view (getJobStatus jobId user) := by
  refine leaves_bind leaves_query fun job => ?_
  cases job with
  | none => exact leaves_throw
  | some job =>
      simp only
      split
      · exact leaves_throw
      · exact leaves_bind leaves_query fun _ => leaves_pure

theorem leaves_exportTranscriptAsync
    (beside : ∀ (store : Store) (queue : Queue),
      queue.reports = store.queue.reports →
        view { store with queue := queue } = view store)
    (studentId : Id) (user : User) :
    Leaves view (exportTranscriptAsync studentId user) := by
  refine leaves_bind leaves_select fun found => ?_
  cases found with
  | none => exact leaves_throw
  | some student =>
      refine leaves_checked (leaves_bind leaves_observe fun jobId => ?_)
      refine leaves_bind (leaves_transaction ?_) fun _ => leaves_pure
      intro choice store done next body
      obtain ⟨queue, enqueued, becomes⟩ := mapped_ok body
      cases becomes
      obtain ⟨fresh, rfl⟩ := enqueueJob_ok enqueued
      exact beside store _ rfl

theorem leaves_readStudent
    (beside : ∀ (store : Store) (cache : Id → Option CacheEntry),
      view { store with cache := cache } = view store)
    (studentId : Id) (user : User) :
    Leaves view (readStudent libraries studentId user) :=
  Prog.follows_leaving.mp (lawful_readStudent ⟨fun _ _ _ => rfl, fun _ _ _ => rfl⟩
    (fun _ _ store _ _ cache => beside store cache) libraries studentId user)

theorem leaves_healthCheck : Leaves view healthCheck := by
  refine leaves_bind ?_ fun _ => leaves_bind leaves_observe fun _ => leaves_pure
  refine leaves_tryCatch (leaves_bind leaves_query fun _ => leaves_pure) ?_
  intro exc
  split
  · exact leaves_pure
  · exact leaves_throw

theorem leaves_limited : Leaves view limited := by
  refine leaves_bind leaves_observe fun fault => ?_
  cases fault with
  | none => exact leaves_pure
  | some exc => exact leaves_throw

end Reads

/-! ## The registrar's writes -/

/-- A view of the store in which, of the tables, only the students show. -/
structure OnlyStudents {ν : Type} (view : Store → ν) : Prop
    extends BesideLocks view where
  tables : ∀ (store : Store) (db : Database),
    db.tables.students = store.db.tables.students →
      view (store.setTables db) = view store

/-- The students are kept elsewhere. -/
def BesideStudents {ρ : Type} {key : ρ → Id} (access : TableAccess key) :
    Prop :=
  ∀ rows tables, (access.set rows tables).students = tables.students

section Registrar

variable {ν α ρ δ ι υ : Type} {key : ρ → Id} {access : TableAccess key}
  {view : Store → ν}

theorem insertRow_students (elsewhere : BesideStudents access)
    {fits : ρ → Bool} {row : ρ} {tables after : Tables}
    (inserted : insertRow access fits row tables = .ok after) :
    after.students = tables.students := by
  unfold insertRow at inserted
  split at inserted
  · cases inserted
  split at inserted
  · cases inserted
    exact elsewhere _ tables
  · cases inserted

theorem flushRow_students (elsewhere : BesideStudents access) {rowId : Id}
    {change : RowChange key} {tables after : Tables}
    (flushed : flushRow access rowId change tables = .ok after) :
    after.students = tables.students := by
  unfold flushRow at flushed
  split at flushed
  · cases flushed
    rfl
  split at flushed
  · cases flushed
  split at flushed
  · cases flushed
  · cases flushed
    exact elsewhere _ tables

theorem leaves_refreshRow (access : TableAccess key) (rowId : Id) :
    Leaves view (refreshRow access rowId) := by
  refine leaves_bind leaves_query fun found => ?_
  cases found with
  | none => exact leaves_throw
  | some row => exact leaves_pure

variable (only : OnlyStudents view)

include only

theorem leaves_inserts {row : Choice → ρ}
    {insert : ρ → Tables → Except SqlError Tables} {answer : ρ → α}
    (elsewhere : ∀ row tables after, insert row tables = .ok after →
      after.students = tables.students) :
    Leaves view (transaction .registrar fun choice store =>
      (store.commit (insert (row choice))).map fun done =>
        (answer (row choice), done.2)) := by
  refine leaves_transaction ?_
  intro choice store value next body
  obtain ⟨done, committed, becomes⟩ := mapped_ok body
  cases becomes
  obtain ⟨db, inserted, same⟩ := Store.commit_ok committed
  rw [same]
  exact only.tables store db (elsewhere _ _ _ inserted)

theorem leaves_flushes {label : Label}
    {flush : Tables → Except SqlError Tables}
    (elsewhere : ∀ tables after, flush tables = .ok after →
      after.students = tables.students) :
    Leaves view (transaction label fun _ store => store.commit flush) := by
  refine leaves_transaction ?_
  intro choice store done next body
  obtain ⟨db, flushed, rfl⟩ := Store.commit_ok body
  exact only.tables store db (elsewhere _ _ flushed)

theorem leaves_createRow (elsewhere : BesideStudents access)
    (fits : ρ → Bool) (errors : WriteErrors) (row : Choice → ρ) :
    Leaves view (createRow access fits errors row) := by
  refine leaves_tryCatch ?_
    (leaves_handled only.toBesideLocks (handles_writeErrors errors))
  exact leaves_bind
    (leaves_inserts only fun _ _ _ => insertRow_students elsewhere)
    fun rowId => leaves_refreshRow access rowId

theorem leaves_updateRow (elsewhere : BesideStudents access) (notFound : Exc)
    (errors : WriteErrors) (change : ρ → RowChange key)
    (check : ρ → Except Exc Unit) (rowId : Id) :
    Leaves view (updateRow access notFound errors change check rowId) := by
  refine leaves_bind leaves_select fun found => ?_
  cases found with
  | none => exact leaves_throw
  | some row =>
      simp only
      cases check row with
      | error exc => exact leaves_throw
      | ok passed =>
          refine leaves_tryCatch ?_
            (leaves_handled only.toBesideLocks (handles_writeErrors errors))
          exact leaves_bind
            (leaves_flushes only fun _ _ => flushRow_students elsewhere)
            fun _ => leaves_refreshRow access (key row)

theorem leaves_deleteRow (deletion : RowDeletion ρ δ)
    (elsewhere : ∀ row dependents tables after,
      deletion.flush row dependents tables = .ok after →
        after.students = tables.students) :
    Leaves view (deleteRow deletion) := by
  refine leaves_bind leaves_query fun found => ?_
  cases found with
  | none => exact leaves_throw
  | some row =>
      refine leaves_bind (leaves_tryCatch ?_ ?_) fun _ => leaves_pure
      · exact leaves_bind leaves_query fun dependents =>
          leaves_flushes only (elsewhere row dependents)
      · exact leaves_handled only.toBesideLocks (handles_referenced _)

end Registrar

/-! ### Deletions -/

theorem rest_of_detachRequired {ρ α : Type} {loaded : List ρ}
    {present : ρ → Bool} {rest : Except SqlError α} {value : α}
    (flushed : (do
      detachRequired loaded present
      rest) = .ok value) : rest = .ok value := by
  cases detached : detachRequired loaded present with
  | error kind =>
      rw [detached] at flushed
      cases flushed
  | ok done =>
      rw [detached] at flushed
      exact flushed

section Deletions

variable {tables after : Tables}

theorem flushDeleteCollege_students {college : College}
    {departments : List Department}
    (flushed : flushDeleteCollege college departments tables = .ok after) :
    after.students = tables.students := by
  cases rest_of_detachRequired flushed
  rfl

theorem flushDeleteCourse_students {course : Course}
    {courseOfferings : List CourseOffering}
    (flushed : flushDeleteCourse course courseOfferings tables = .ok after) :
    after.students = tables.students := by
  cases rest_of_detachRequired flushed
  rfl

theorem flushDeleteTeacher_students {teacher : Teacher}
    {courseOfferings : List CourseOffering}
    (flushed : flushDeleteTeacher teacher courseOfferings tables =
      .ok after) : after.students = tables.students := by
  cases rest_of_detachRequired flushed
  rfl

theorem flushDeleteCourseOffering_students {courseOffering : CourseOffering}
    {dependents : OfferingDependents}
    (flushed : flushDeleteCourseOffering courseOffering dependents tables =
      .ok after) : after.students = tables.students := by
  cases rest_of_detachRequired (rest_of_detachRequired flushed)
  rfl

/-- The students of a department are looked at, not written. -/
theorem flushDeleteDepartment_students {department : Department}
    {dependents : DepartmentDependents}
    (flushed : flushDeleteDepartment department dependents tables =
      .ok after) : after.students = tables.students := by
  have courses := rest_of_detachRequired (rest_of_detachRequired flushed)
  unfold detachCourses at courses
  split at courses
  · cases courses
    rfl
  · cases courses

end Deletions

/-! ## Endpoints of tables -/

/-- Nothing the endpoints of a table do shows in the view. -/
structure Unseen {ν ι υ : Type} (view : Store → ν)
    (endpoints : TableEndpoints ι υ) : Prop where
  create : ∀ payload, Leaves view (endpoints.create payload)
  read : ∀ user rowId, Leaves view (endpoints.read user rowId)
  list : ∀ user skip limit, Leaves view (endpoints.list user skip limit)
  update : ∀ payload rowId, Leaves view (endpoints.update payload rowId)
  delete : ∀ rowId, Leaves view (endpoints.delete rowId)

section Tables

variable {ν ι υ : Type} {view : Store → ν}

theorem Unseen.leaves {endpoints : TableEndpoints ι υ}
    (unseen : Unseen view endpoints) (libraries : Libraries)
    (credentials : Option String) (route : TableRoute ι υ) :
    Leaves view (endpoints.program libraries credentials route) := by
  cases route with
  | create payload =>
      exact leaves_bind (leaves_requireRoles _ credentials)
        fun _ => unseen.create payload
  | read rowId =>
      exact leaves_bind (leaves_requireRoles _ credentials)
        fun user => unseen.read user rowId
  | list skip limit =>
      exact leaves_bind (leaves_requireRoles _ credentials)
        fun user => unseen.list user skip limit
  | update payload rowId =>
      exact leaves_bind (leaves_requireRoles _ credentials)
        fun _ => unseen.update payload rowId
  | delete rowId =>
      exact leaves_bind (leaves_requireRoles _ credentials)
        fun _ => unseen.delete rowId

theorem leaves_deletes {ρ δ : Type} {deletion : RowDeletion ρ δ}
    {message : String} (leaves : Leaves view (deleteRow deletion)) :
    Leaves view (silent do
      let _ ← deleteRow deletion
      return message) :=
  leaves_silent (leaves_bind leaves fun _ => leaves_pure)

variable (only : OnlyStudents view)

include only

theorem colleges_unseen : Unseen view collegeEndpoints where
  create _ := leaves_silent (leaves_createRow only (fun _ _ => rfl) _ _ _)
  read _ collegeId := leaves_silent (leaves_readRow _ _ collegeId)
  list _ skip limit := leaves_silent (leaves_readRows _ skip limit)
  update _ collegeId :=
    leaves_silent (leaves_updateRow only (fun _ _ => rfl) _ _ _ _ collegeId)
  delete _ := leaves_deletes (leaves_deleteRow only _
    fun _ _ _ _ => flushDeleteCollege_students)

theorem courses_unseen : Unseen view courseEndpoints where
  create _ := leaves_silent (leaves_createRow only (fun _ _ => rfl) _ _ _)
  read _ courseId := leaves_silent (leaves_readRow _ _ courseId)
  list _ skip limit := leaves_silent (leaves_readRows _ skip limit)
  update _ courseId :=
    leaves_silent (leaves_updateRow only (fun _ _ => rfl) _ _ _ _ courseId)
  delete _ := leaves_deletes (leaves_deleteRow only _
    fun _ _ _ _ => flushDeleteCourse_students)

theorem courseOfferings_unseen : Unseen view courseOfferingEndpoints where
  create _ := leaves_silent (leaves_createRow only (fun _ _ => rfl) _ _ _)
  read _ courseOfferingId :=
    leaves_silent (leaves_readRow _ _ courseOfferingId)
  list _ skip limit := leaves_silent (leaves_readRows _ skip limit)
  update _ courseOfferingId := leaves_silent
    (leaves_updateRow only (fun _ _ => rfl) _ _ _ _ courseOfferingId)
  delete _ := leaves_deletes (leaves_deleteRow only _
    fun _ _ _ _ => flushDeleteCourseOffering_students)

theorem departments_unseen : Unseen view departmentEndpoints where
  create _ := leaves_silent (leaves_createRow only (fun _ _ => rfl) _ _ _)
  read _ departmentId := leaves_silent (leaves_readRow _ _ departmentId)
  list _ skip limit := leaves_silent (leaves_readRows _ skip limit)
  update _ departmentId :=
    leaves_silent (leaves_updateRow only (fun _ _ => rfl) _ _ _ _ departmentId)
  delete _ := leaves_deletes (leaves_deleteRow only _
    fun _ _ _ _ => flushDeleteDepartment_students)

theorem teachers_unseen : Unseen view teacherEndpoints where
  create _ := leaves_silent (leaves_createRow only (fun _ _ => rfl) _ _ _)
  read _ teacherId := leaves_silent (leaves_readRow _ _ teacherId)
  list _ skip limit := leaves_silent (leaves_readRows _ skip limit)
  update _ teacherId :=
    leaves_silent (leaves_updateRow only (fun _ _ => rfl) _ _ _ _ teacherId)
  delete _ := leaves_deletes (leaves_deleteRow only _
    fun _ _ _ _ => flushDeleteTeacher_students)

theorem leaves_createCourseSchedule (courseSchedule : CourseScheduleCreate) :
    Leaves view (createCourseSchedule courseSchedule) := by
  unfold createCourseSchedule
  split
  · exact leaves_throw
  · exact leaves_createRow only (fun _ _ => rfl) _ _ _

theorem courseSchedules_unseen : Unseen view courseScheduleEndpoints where
  create courseSchedule :=
    leaves_silent (leaves_createCourseSchedule only courseSchedule)
  read _ courseScheduleId :=
    leaves_silent (leaves_readRow _ _ courseScheduleId)
  list _ skip limit := leaves_silent (leaves_readRows _ skip limit)
  update _ courseScheduleId := leaves_silent
    (leaves_updateRow only (fun _ _ => rfl) _ _ _ _ courseScheduleId)
  delete _ := leaves_deletes (leaves_deleteRow only _ fun _ _ _ _ flushed => by
    cases flushed
    rfl)

theorem leaves_createEnrollment (enrollment : EnrollmentCreate) :
    Leaves view (createEnrollment enrollment) := by
  have inserts : Leaves view (tryCatch
      (do
        let newEnrollment ← commitNewEnrollment enrollment
        refreshEnrollment newEnrollment.id)
      handleEnrollmentErrors) := by
    refine leaves_tryCatch (leaves_bind (leaves_inserts only ?_) ?_)
      (leaves_handled only.toBesideLocks handles_enrollmentErrors)
    · intro row tables after inserted
      obtain ⟨fresh, rfl⟩ := insertEnrollment_ok inserted
      rfl
    · intro newEnrollment
      refine leaves_bind leaves_query fun found => ?_
      cases found with
      | none => exact leaves_throw
      | some row => exact leaves_pure
  exact leaves_bind leaves_select fun student => leaves_checked
    (leaves_bind leaves_select fun courseOffering => leaves_checked
      (leaves_bind leaves_select fun existingEnrollment => leaves_checked
        (leaves_bind leaves_select fun existingCode =>
          leaves_checked inserts)))

theorem enrollments_unseen : Unseen view enrollmentEndpoints where
  create enrollment := leaves_silent (leaves_createEnrollment only enrollment)
  read user enrollmentId :=
    leaves_silent (leaves_readEnrollment enrollmentId user)
  list user skip limit := leaves_silent (leaves_readEnrollments user skip limit)
  update _ enrollmentId := leaves_silent
    (leaves_updateRow only (fun _ _ => rfl) _ _ _ _ enrollmentId)
  delete _ := leaves_deletes (leaves_deleteRow only _ fun _ _ _ _ flushed => by
    cases flushed
    rfl)

end Tables

end SystemUni.Routers.Frame
