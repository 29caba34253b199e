import SystemUni.Models.Rows
import SystemUni.Relational.Constraints

/-!
# The database with its declared constraints

`Tables` are the nine tables tied together by foreign keys.  `Database` adds
that they meet every constraint the models declare, so each committed state is
admissible by construction: a transaction whose result is not admissible ends
in an `IntegrityError` and writes nothing.
-/

set_option autoImplicit false

namespace SystemUni.Models.Schema

open Relational
open SystemUni.Runtime.Errors
open SystemUni.Models.Rows

structure Tables where
  colleges : Table College.id := .empty
  departments : Table Department.id := .empty
  teachers : Table Teacher.id := .empty
  students : Table Student.id := .empty
  courses : Table Course.id := .empty
  courseOfferings : Table CourseOffering.id := .empty
  courseSchedules : Table CourseSchedule.id := .empty
  enrollments : Table Enrollment.id := .empty
  users : Table User.id := .empty

/-! ## The constraints of each model -/

def Tables.CollegeConstraints (tables : Tables) : Prop :=
  tables.colleges.Unique fun row => some row.code

def Tables.DepartmentConstraints (tables : Tables) : Prop :=
  (tables.departments.Unique fun row => some (row.collegeId, row.name)) ∧
  (tables.departments.Unique fun row => some (row.collegeId, row.code)) ∧
  tables.departments.References (fun row => some row.collegeId) tables.colleges

def Tables.TeacherConstraints (tables : Tables) : Prop :=
  tables.teachers.References (fun row => some row.departmentId)
    tables.departments

def Tables.StudentConstraints (tables : Tables) : Prop :=
  (tables.students.Unique fun row => some row.email) ∧
  (tables.students.Unique fun row => row.userId) ∧
  tables.students.References (fun row => some row.departmentId)
    tables.departments ∧
  tables.students.References (fun row => row.userId) tables.users

def Tables.CourseConstraints (tables : Tables) : Prop :=
  (tables.courses.Unique fun row =>
    row.departmentId.map fun department => (department, row.code)) ∧
  (tables.courses.Unique fun row =>
    row.departmentId.map fun department => (department, row.name)) ∧
  tables.courses.References (fun row => row.departmentId) tables.departments

def Tables.CourseOfferingConstraints (tables : Tables) : Prop :=
  (tables.courseOfferings.Unique fun row =>
    some (row.courseId, row.teacherId, row.semester, row.academicYear,
      row.sectionName)) ∧
  tables.courseOfferings.References (fun row => some row.courseId)
    tables.courses ∧
  tables.courseOfferings.References (fun row => some row.teacherId)
    tables.teachers

def Tables.CourseScheduleConstraints (tables : Tables) : Prop :=
  (tables.courseSchedules.Unique fun row =>
    some (row.courseOfferingId, row.day, row.startTime, row.endTime)) ∧
  tables.courseSchedules.References (fun row => some row.courseOfferingId)
    tables.courseOfferings ∧
  tables.courseSchedules.Checked fun row => decide (row.startTime < row.endTime)

/-- `ck_enrollment_grade_range` and `ck_enrollment_active_xor_withdrawn`. -/
def enrollmentChecks (row : Enrollment) : Bool :=
  (match row.grade with
    | none => true
    | some grade => decide (0 ≤ grade ∧ grade ≤ 100)) &&
  !(row.isActive && row.isWithdrawn)

def Tables.EnrollmentConstraints (tables : Tables) : Prop :=
  (tables.enrollments.Unique fun row => some row.enrollmentCode) ∧
  (tables.enrollments.Unique
    fun row => some (row.studentId, row.courseOfferingId)) ∧
  tables.enrollments.References (fun row => some row.studentId)
    tables.students ∧
  tables.enrollments.References (fun row => some row.courseOfferingId)
    tables.courseOfferings ∧
  tables.enrollments.Checked enrollmentChecks

def Tables.UserConstraints (tables : Tables) : Prop :=
  (tables.users.Unique fun row => some row.username) ∧
  (tables.users.Unique fun row => some row.email)

section Decidability

variable (tables : Tables)

instance : Decidable tables.CollegeConstraints := by
  unfold Tables.CollegeConstraints
  infer_instance

instance : Decidable tables.DepartmentConstraints := by
  unfold Tables.DepartmentConstraints
  infer_instance

instance : Decidable tables.TeacherConstraints := by
  unfold Tables.TeacherConstraints
  infer_instance

instance : Decidable tables.StudentConstraints := by
  unfold Tables.StudentConstraints
  infer_instance

instance : Decidable tables.CourseConstraints := by
  unfold Tables.CourseConstraints
  infer_instance

instance : Decidable tables.CourseOfferingConstraints := by
  unfold Tables.CourseOfferingConstraints
  infer_instance

instance : Decidable tables.CourseScheduleConstraints := by
  unfold Tables.CourseScheduleConstraints
  infer_instance

instance : Decidable tables.EnrollmentConstraints := by
  unfold Tables.EnrollmentConstraints
  infer_instance

instance : Decidable tables.UserConstraints := by
  unfold Tables.UserConstraints
  infer_instance

end Decidability

structure Tables.Admissible (tables : Tables) : Prop where
  college : tables.CollegeConstraints
  department : tables.DepartmentConstraints
  teacher : tables.TeacherConstraints
  student : tables.StudentConstraints
  course : tables.CourseConstraints
  courseOffering : tables.CourseOfferingConstraints
  courseSchedule : tables.CourseScheduleConstraints
  enrollment : tables.EnrollmentConstraints
  user : tables.UserConstraints

instance (tables : Tables) : Decidable tables.Admissible :=
  decidable_of_iff
    (tables.CollegeConstraints ∧ tables.DepartmentConstraints ∧
      tables.TeacherConstraints ∧ tables.StudentConstraints ∧
      tables.CourseConstraints ∧ tables.CourseOfferingConstraints ∧
      tables.CourseScheduleConstraints ∧ tables.EnrollmentConstraints ∧
      tables.UserConstraints)
    ⟨fun ⟨college, department, teacher, student, course, courseOffering,
        courseSchedule, enrollment, user⟩ =>
      ⟨college, department, teacher, student, course, courseOffering,
        courseSchedule, enrollment, user⟩,
    fun ⟨college, department, teacher, student, course, courseOffering,
        courseSchedule, enrollment, user⟩ =>
      ⟨college, department, teacher, student, course, courseOffering,
        courseSchedule, enrollment, user⟩⟩

/-! ## Committed states -/

structure Database where
  tables : Tables
  admissible : tables.Admissible

def Database.empty : Database := ⟨{}, by decide⟩

/-- A flush followed by `COMMIT`: what the statements make of the tables, if
they succeed and the constraints hold. -/
def Database.commit (flush : Tables → Except SqlError Tables)
    (database : Database) : Except SqlError Database :=
  match flush database.tables with
  | .error kind => .error kind
  | .ok tables =>
      if admissible : tables.Admissible then .ok ⟨tables, admissible⟩
      else .error .integrityError

theorem Database.commit_ok {flush : Tables → Except SqlError Tables}
    {database next : Database} (committed : database.commit flush = .ok next) :
    flush database.tables = .ok next.tables := by
  unfold Database.commit at committed
  split at committed
  · cases committed
  · rename_i tables flushed
    split at committed
    · cases committed
      exact flushed
    · cases committed

theorem Database.commit_of_ok {flush : Tables → Except SqlError Tables}
    {database : Database} {tables : Tables}
    (flushed : flush database.tables = .ok tables)
    (admissible : tables.Admissible) :
    database.commit flush = .ok ⟨tables, admissible⟩ := by
  simp only [Database.commit, flushed, dif_pos admissible]

theorem Database.commit_of_error {flush : Tables → Except SqlError Tables}
    {database : Database} {kind : SqlError}
    (refused : flush database.tables = .error kind) :
    database.commit flush = .error kind := by
  simp only [Database.commit, refused]

/-! ## A small university

One student, linked to nobody, an administrator and a user. -/

def sampleAdmin : User :=
  ⟨1, "root", "root@uni.edu", .admin, 0, "", 0⟩

def sampleUser : User :=
  ⟨2, "mona", "mona@uni.edu", .user, 0, "", 0⟩

def sampleStudent : Student :=
  ⟨1, "Mona", none, "mona@uni.edu", 0, 1, none, 1⟩

/-- The student, linked to the user. -/
def linkedSample : Student := { sampleStudent with userId := some 2 }

def sampleTables : Tables where
  colleges := ⟨[⟨1, "Science", "SCI", 0⟩], by decide⟩
  departments := ⟨[⟨1, "Mathematics", "MATH", 0, 1⟩], by decide⟩
  students := ⟨[sampleStudent], by decide⟩
  users := ⟨[sampleAdmin, sampleUser], by decide⟩

def linkedTables : Tables :=
  { sampleTables with students := ⟨[linkedSample], by decide⟩ }

def sampleDatabase : Database := ⟨sampleTables, by decide⟩

def linkedDatabase : Database := ⟨linkedTables, by decide⟩

end SystemUni.Models.Schema
