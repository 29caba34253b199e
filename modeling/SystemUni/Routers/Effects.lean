import SystemUni.Relational.Edits
import SystemUni.Routers.Mediation

/-!
# What the endpoints are for

The change of the database that each endpoint exists to make, as an edit of
one table.  An update writes the columns that are given and were not already
so when the row was loaded, on the row as it is when it is written; whatever
others have written to its other columns in between stays.
-/

set_option autoImplicit false

namespace SystemUni.Routers.Effects

open Relational
open SystemUni.Runtime.Errors
open SystemUni.Runtime.External
open SystemUni.Models.Rows
open SystemUni.Models.Jobs
open SystemUni.Models.Schema
open SystemUni.Crud.User
open SystemUni.Crud.Rows
open SystemUni.Crud.Student
open SystemUni.Crud.Enrollment
open SystemUni.Crud.RegistrarRows
open SystemUni.Crud.CourseSchedule
open SystemUni.Routers.Api
open SystemUni.Routers.Mediation
open SystemUni.Routers.Reports

/-! ## Edits of one table -/

def students : TableAccess Student.id where
  get tables := tables.students
  set rows tables := { tables with students := rows }

def users : TableAccess User.id where
  get tables := tables.users
  set rows tables := { tables with users := rows }

section Edits

variable {ρ : Type} {key : ρ → Id}

/-- One key of one table has got this value; the other tables are the same. -/
def Edits (access : TableAccess key) (rowId : Id) (value : Option ρ)
    (before after : Tables) : Prop :=
  ∃ rows, after = access.set rows before ∧
    Table.Sets rowId value (access.get before) rows

def Creates (access : TableAccess key) (isRow : ρ → Prop)
    (before after : Tables) : Prop :=
  ∃ row, isRow row ∧ (access.get before).find? (key row) = none ∧
    Edits access (key row) (some row) before after

/-- The row is replaced by what `merge` makes of the row that was loaded, from
tables that have been seen, and of the row that is there now. -/
def Updates (seen : Tables → Prop) (access : TableAccess key) (rowId : Id)
    (merge : ρ → ρ → ρ) (before after : Tables) : Prop :=
  ∃ tables loaded old, seen tables ∧
    (access.get tables).find? rowId = some loaded ∧
    (access.get before).find? rowId = some old ∧
    Edits access rowId (some (merge loaded old)) before after

def Deletes (access : TableAccess key) (rowId : Id) :
    Tables → Tables → Prop :=
  Edits access rowId none

end Edits

/-- A column after an update. -/
def merged {α : Type} [DecidableEq α] (given : Option α) (loaded old : α) :
    α :=
  match given with
  | none => old
  | some value => if loaded = value then old else value

/-- The same for a time, which is compared with its offset and stored without
it. -/
def mergedTime (given : Option ClockTime) (loaded old : TimeOfDay) :
    TimeOfDay :=
  match given with
  | none => old
  | some time => if stored loaded = time then old else time.time

/-! ## The effects on tables -/

structure TableEffects (ι υ : Type) where
  create : ι → Tables → Tables → Prop
  update : υ → Id → Tables → Tables → Prop
  delete : Id → Tables → Tables → Prop

/-- Reading has no effect. -/
def TableEffects.effect {ι υ : Type} (effects : TableEffects ι υ) :
    TableRoute ι υ → Tables → Tables → Prop
  | .create payload => effects.create payload
  | .read _ => fun _ _ => False
  | .list _ _ => fun _ _ => False
  | .update payload rowId => effects.update payload rowId
  | .delete rowId => effects.delete rowId

def collegeMerge (update : CollegeUpdate) (loaded old : College) : College :=
  { old with
    name := merged update.name loaded.name old.name
    code := merged update.code loaded.code old.code }

def departmentMerge (update : DepartmentUpdate) (loaded old : Department) :
    Department :=
  { old with
    name := merged update.name loaded.name old.name
    code := merged update.code loaded.code old.code
    collegeId := merged update.collegeId loaded.collegeId old.collegeId }

def teacherMerge (update : TeacherUpdate) (loaded old : Teacher) : Teacher :=
  { old with
    name := merged update.name loaded.name old.name
    departmentId :=
      merged update.departmentId loaded.departmentId old.departmentId }

def courseMerge (update : CourseUpdate) (loaded old : Course) : Course :=
  { old with
    name := merged update.name loaded.name old.name
    code := merged update.code loaded.code old.code
    departmentId := merged (update.departmentId.map some)
      loaded.departmentId old.departmentId }

def courseOfferingMerge (update : CourseOfferingUpdate)
    (loaded old : CourseOffering) : CourseOffering :=
  { old with
    courseId := merged update.courseId loaded.courseId old.courseId
    teacherId := merged update.teacherId loaded.teacherId old.teacherId
    semester := merged update.semester loaded.semester old.semester
    academicYear :=
      merged update.academicYear loaded.academicYear old.academicYear
    sectionName := merged update.sectionName loaded.sectionName
      old.sectionName }

def courseScheduleMerge (update : CourseScheduleUpdate)
    (loaded old : CourseSchedule) : CourseSchedule :=
  { old with
    day := merged update.day loaded.day old.day
    scheduleType :=
      merged update.scheduleType loaded.scheduleType old.scheduleType
    startTime := mergedTime update.startTime loaded.startTime old.startTime
    endTime := mergedTime update.endTime loaded.endTime old.endTime
    room := merged update.room loaded.room old.room
    courseOfferingId := merged update.courseOfferingId
      loaded.courseOfferingId old.courseOfferingId }

def enrollmentMerge (update : EnrollmentUpdate) (loaded old : Enrollment) :
    Enrollment :=
  { old with
    studentId := merged update.studentId loaded.studentId old.studentId
    courseOfferingId := merged update.courseOfferingId
      loaded.courseOfferingId old.courseOfferingId
    enrollmentCode := merged update.enrollmentCode loaded.enrollmentCode
      old.enrollmentCode
    grade := merged (update.grade.map some) loaded.grade old.grade
    isActive := merged update.isActive loaded.isActive old.isActive
    isWithdrawn :=
      merged update.isWithdrawn loaded.isWithdrawn old.isWithdrawn }

/-- The version goes up with every write. -/
def studentMerge (update : StudentUpdate) (loaded old : Student) : Student :=
  { old with
    name := merged update.name loaded.name old.name
    departmentId :=
      merged update.departmentId loaded.departmentId old.departmentId
    age := merged (update.age.map some) loaded.age old.age
    email := merged update.email loaded.email old.email
    versionId := loaded.versionId + 1 }

def linkedTo (userId : Option Id) (loaded old : Student) : Student :=
  { old with userId := userId, versionId := loaded.versionId + 1 }

/-- A new password or role revokes the tokens of the account. -/
def userMerge (libraries : Libraries) (username email : Option String)
    (role : Option UserRole) (passwordHash : Option String)
    (loaded old : User) : User :=
  { old with
    username := merged username loaded.username old.username
    email := merged (email.map libraries.lower) loaded.email old.email
    role := merged role loaded.role old.role
    passwordHash :=
      merged passwordHash loaded.passwordHash old.passwordHash
    tokenVersion :=
      if passwordHash.isSome ∨ role.isSome then loaded.tokenVersion + 1
      else old.tokenVersion }

section Effects

variable (seen : Tables → Prop)

def collegeEffects : TableEffects CollegeCreate CollegeUpdate where
  create college := Creates colleges fun row =>
    row.name = college.name ∧ row.code = college.code
  update update collegeId :=
    Updates seen colleges collegeId (collegeMerge update)
  delete collegeId := Deletes colleges collegeId

/-- Courses of the department are kept, without a department. -/
def departmentEffects : TableEffects DepartmentCreate DepartmentUpdate where
  create department := Creates departments fun row =>
    row.name = department.name ∧ row.code = department.code ∧
      row.collegeId = department.collegeId
  update update departmentId :=
    Updates seen departments departmentId (departmentMerge update)
  delete departmentId before after := ∃ detached tables, seen tables ∧
    (∀ courseId, (courses.get detached).find? courseId =
      ((courses.get before).find? courseId).map fun course =>
        if (tables.courses.find? courseId).any fun loaded =>
            decide (loaded.departmentId = some departmentId) then
          { course with departmentId := none }
        else course) ∧
    (∃ rows, detached = courses.set rows before) ∧
    Deletes departments departmentId detached after

def teacherEffects : TableEffects TeacherCreate TeacherUpdate where
  create teacher := Creates teachers fun row =>
    row.name = teacher.name ∧ row.departmentId = teacher.departmentId
  update update teacherId :=
    Updates seen teachers teacherId (teacherMerge update)
  delete teacherId := Deletes teachers teacherId

def courseEffects : TableEffects CourseCreate CourseUpdate where
  create course := Creates courses fun row =>
    row.name = course.name ∧ row.code = course.code ∧
      row.departmentId = course.departmentId
  update update courseId := Updates seen courses courseId (courseMerge update)
  delete courseId := Deletes courses courseId

def courseOfferingEffects :
    TableEffects CourseOfferingCreate CourseOfferingUpdate where
  create courseOffering := Creates courseOfferings fun row =>
    row.courseId = courseOffering.courseId ∧
      row.teacherId = courseOffering.teacherId ∧
      row.semester = courseOffering.semester ∧
      row.academicYear = courseOffering.academicYear ∧
      row.sectionName = courseOffering.sectionName
  update update courseOfferingId := Updates seen courseOfferings
    courseOfferingId (courseOfferingMerge update)
  delete courseOfferingId := Deletes courseOfferings courseOfferingId

def courseScheduleEffects :
    TableEffects CourseScheduleCreate CourseScheduleUpdate where
  create courseSchedule := Creates courseSchedules fun row =>
    row.day = courseSchedule.day ∧
      row.scheduleType = courseSchedule.scheduleType ∧
      row.startTime = courseSchedule.startTime.time ∧
      row.endTime = courseSchedule.endTime.time ∧
      row.room = courseSchedule.room ∧
      row.courseOfferingId = courseSchedule.courseOfferingId
  update update courseScheduleId := Updates seen courseSchedules
    courseScheduleId (courseScheduleMerge update)
  delete courseScheduleId := Deletes courseSchedules courseScheduleId

def enrollmentEffects : TableEffects EnrollmentCreate EnrollmentUpdate where
  create enrollment := Creates enrollments fun row =>
    row.studentId = enrollment.studentId ∧
      row.courseOfferingId = enrollment.courseOfferingId ∧
      row.enrollmentCode = enrollment.enrollmentCode ∧
      row.grade = enrollment.grade ∧ row.isActive = enrollment.isActive ∧
      row.isWithdrawn = enrollment.isWithdrawn
  update update enrollmentId :=
    Updates seen enrollments enrollmentId (enrollmentMerge update)
  delete enrollmentId := Deletes enrollments enrollmentId

/-- A row that is written is at the version it was loaded at. -/
def Saves (studentId : Id) (condition : Student → Prop)
    (merge : Student → Student → Student) (before after : Tables) : Prop :=
  ∃ tables loaded old, seen tables ∧
    tables.students.find? studentId = some loaded ∧ condition loaded ∧
    before.students.find? studentId = some old ∧
    old.versionId = loaded.versionId ∧
    Edits students studentId (some (merge loaded old)) before after

def studentEffects : TableEffects StudentCreate StudentUpdate where
  create student := Creates students fun row =>
    row.name = student.name ∧ row.departmentId = student.departmentId ∧
      row.age = student.age ∧ row.email = student.email ∧
      row.userId = none ∧ row.versionId = 1
  update update studentId := Saves seen studentId
    (fun loaded => ∀ version, update.versionId = some version →
      loaded.versionId = version) (studentMerge update)
  delete studentId := Deletes students studentId

/-- The hash of the password, if one is given. -/
def Hashes (libraries : Libraries) (password passwordHash : Option String) :
    Prop :=
  ∃ salt, passwordHash = password.map (libraries.hashPassword salt)

/-- Before an account is deleted, the student linked to it is unlinked. -/
def Unlinks (userId : Id) (before after : Tables) : Prop :=
  after = before ∨ ∃ studentId, Saves seen studentId
    (fun loaded => loaded.userId = some userId) (linkedTo none) before after

def userEffects (libraries : Libraries) : TableEffects Empty UserUpdate where
  create payload := nomatch payload
  update update userId before after := ∃ passwordHash,
    Hashes libraries update.password passwordHash ∧
    Updates seen users userId (userMerge libraries update.username
      update.email update.role passwordHash) before after
  delete userId before after := ∃ unlinked,
    Unlinks seen userId before unlinked ∧ Deletes users userId unlinked after

/-- An account for anyone, at the lowest role. -/
def Registers (libraries : Libraries) (user : UserRegister) :
    Tables → Tables → Prop :=
  Creates users fun row =>
    row.username = user.username ∧ row.email = libraries.lower user.email ∧
      row.role = .guest ∧ row.tokenVersion = 0 ∧
      ∃ salt, row.passwordHash = libraries.hashPassword salt user.password

/-- A job for the student is queued, owned by this user and never claimed. -/
def Enqueues (user : User) (studentId : Id) (before after : Queue) : Prop :=
  ∃ jobId now, before.jobs.find? jobId = none ∧
    Table.Sets jobId (some
      { jobId := jobId
        jobVersion := 0
        status := .queued
        ownerId := user.id
        workerToken := none
        leaseUntil := none
        reportType := "transcript"
        targetId := studentId
        attemptCount := 0
        retryAt := none
        lastError := none
        createdAt := now
        updatedAt := now }) before.jobs after.jobs ∧
    after.reports = before.reports ∧ after.claims = before.claims

end Effects

/-! ## All endpoints -/

/-- An effect on the tables alone. -/
def onTables (effect : Tables → Tables → Prop)
    (before after : Tables × Queue) : Prop :=
  effect before.1 after.1 ∧ after.2 = before.2

/-- The account of the request is updated, on the row that authenticated it. -/
def UpdatesOwn (moment : Time → Tables → Prop) (libraries : Libraries)
    (credentials : Option String) (update : UserSelfUpdate)
    (before after : Tables) : Prop :=
  ∃ user passwordHash old, IsRequester moment libraries credentials user ∧
    Hashes libraries update.password passwordHash ∧
    before.users.find? user.id = some old ∧
    Edits users user.id (some (userMerge libraries update.username
      update.email none passwordHash user old)) before after

/-- The student may be exported by the account of the request. -/
def Exports (moment : Time → Tables → Prop) (libraries : Libraries)
    (credentials : Option String) (studentId : Id) (before after : Queue) :
    Prop :=
  ∃ user now tables student, IsRequester moment libraries credentials user ∧
    moment now tables ∧ tables.students.find? studentId = some student ∧
    mayExport user student = true ∧ Enqueues user studentId before after

def Effect (moment : Time → Tables → Prop) (libraries : Libraries)
    (credentials : Option String) (route : Route) :
    Tables × Queue → Tables × Queue → Prop :=
  let seen tables := ∃ now, moment now tables
  match route with
  | .healthCheck => fun _ _ => False
  | .getTranscript _ => fun _ _ => False
  | .exportTranscriptAsync studentId => fun before after =>
      after.1 = before.1 ∧
        Exports moment libraries credentials studentId before.2 after.2
  | .getJobStatus _ => fun _ _ => False
  | .college route => onTables ((collegeEffects seen).effect route)
  | .course route => onTables ((courseEffects seen).effect route)
  | .courseOffering route => onTables ((courseOfferingEffects seen).effect route)
  | .department route => onTables ((departmentEffects seen).effect route)
  | .teacher route => onTables ((teacherEffects seen).effect route)
  | .student route => onTables ((studentEffects seen).effect route)
  | .linkStudentUser studentId userId => onTables (Saves seen studentId
      (fun loaded => loaded.userId = none) (linkedTo (some userId)))
  | .enrollment route => onTables ((enrollmentEffects seen).effect route)
  | .courseSchedule route =>
      onTables ((courseScheduleEffects seen).effect route)
  | .getCurrentUser => fun _ _ => False
  | .updateCurrentUser update =>
      onTables (UpdatesOwn moment libraries credentials update)
  | .getCurrentStudent => fun _ _ => False
  | .user route => onTables ((userEffects seen libraries).effect route)
  | .registerUser user => onTables (Registers libraries user)
  | .loginUser _ => fun _ _ => False

end SystemUni.Routers.Effects
