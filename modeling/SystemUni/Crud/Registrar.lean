import SystemUni.Crud.Deletion

/-!
# Deleting what the registrar keeps

The `delete_…` functions of `app/crud/college.py`, `department.py`,
`course.py`, `teacher.py` and `courseoffering.py`.
-/

set_option autoImplicit false

namespace SystemUni.Crud.Registrar

open Relational
open SystemUni.Runtime.Errors
open SystemUni.Runtime.Statements
open SystemUni.Models.Rows
open SystemUni.Models.Schema
open SystemUni.Crud.Deletion

/-! ## Colleges -/

def flushDeleteCollege (college : College) (departments : List Department)
    (tables : Tables) : Except SqlError Tables := do
  detachRequired departments fun row =>
    (tables.departments.find? row.id).isSome
  return { tables with colleges := tables.colleges.erase college.id }

def deleteCollegeRow (collegeId : Id) :
    RowDeletion College (List Department) where
  label _ := .registrar
  load tables := tables.colleges.find? collegeId
  notFound := .httpException 404 "College not found"
  dependents college tables := tables.departments.rows.filter fun row =>
    decide (row.collegeId = college.id)
  flush := flushDeleteCollege
  referenced := .httpException 409
    "Cannot delete college due to dependent records (e.g. departments)"

def deleteCollege (collegeId : Id) : Py String := do
  let _ ← deleteRow (deleteCollegeRow collegeId)
  return "College deleted successfully"

/-! ## Departments -/

structure DepartmentDependents where
  teachers : List Teacher
  students : List Student
  courses : List Course

/-- `course.department_id` may be `NULL`. -/
def detachCourse (row : Course) : Course := { row with departmentId := none }

@[simp] theorem detachCourse_id (row : Course) :
    (detachCourse row).id = row.id := rfl

def isLoaded (loaded : List Course) (row : Course) : Bool :=
  loaded.any fun course => decide (course.id = row.id)

def detachCourses (loaded : List Course) (tables : Tables) :
    Except SqlError Tables :=
  if loaded.all fun row => (tables.courses.find? row.id).isSome then
    .ok { tables with
      courses := tables.courses.updateWhere (isLoaded loaded) detachCourse
        detachCourse_id }
  else .error .staleDataError

def coursesOf (departmentId : Id) (tables : Tables) : List Course :=
  tables.courses.rows.filter fun row =>
    decide (row.departmentId = some departmentId)

def flushDeleteDepartment (department : Department)
    (dependents : DepartmentDependents) (tables : Tables) :
    Except SqlError Tables := do
  detachRequired dependents.teachers fun row =>
    (tables.teachers.find? row.id).isSome
  detachRequired dependents.students fun row =>
    (tables.students.find? row.id).any fun student =>
      decide (student.versionId = row.versionId)
  let detached ← detachCourses dependents.courses tables
  return { detached with
    departments := detached.departments.erase department.id }

def deleteDepartmentRow (departmentId : Id) :
    RowDeletion Department DepartmentDependents where
  label _ := .registrar
  load tables := tables.departments.find? departmentId
  notFound := .httpException 404 "Department not found"
  dependents department tables := {
    teachers := tables.teachers.rows.filter fun row =>
      decide (row.departmentId = department.id)
    students := tables.students.rows.filter fun row =>
      decide (row.departmentId = department.id)
    courses := coursesOf department.id tables }
  flush := flushDeleteDepartment
  referenced := .httpException 409
    "Cannot delete department due to dependent records (teachers, students, courses)"

def deleteDepartment (departmentId : Id) : Py String := do
  let _ ← deleteRow (deleteDepartmentRow departmentId)
  return "Department deleted successfully"

/-! ## Courses -/

def flushDeleteCourse (course : Course) (courseOfferings : List CourseOffering)
    (tables : Tables) : Except SqlError Tables := do
  detachRequired courseOfferings fun row =>
    (tables.courseOfferings.find? row.id).isSome
  return { tables with courses := tables.courses.erase course.id }

def deleteCourseRow (courseId : Id) :
    RowDeletion Course (List CourseOffering) where
  label _ := .registrar
  load tables := tables.courses.find? courseId
  notFound := .httpException 404 "Course not found"
  dependents course tables := tables.courseOfferings.rows.filter fun row =>
    decide (row.courseId = course.id)
  flush := flushDeleteCourse
  referenced := .httpException 409
    "Cannot delete course due to dependent course offerings"

def deleteCourse (courseId : Id) : Py String := do
  let _ ← deleteRow (deleteCourseRow courseId)
  return "Course deleted successfully"

/-! ## Teachers -/

def flushDeleteTeacher (teacher : Teacher)
    (courseOfferings : List CourseOffering) (tables : Tables) :
    Except SqlError Tables := do
  detachRequired courseOfferings fun row =>
    (tables.courseOfferings.find? row.id).isSome
  return { tables with teachers := tables.teachers.erase teacher.id }

def deleteTeacherRow (teacherId : Id) :
    RowDeletion Teacher (List CourseOffering) where
  label _ := .registrar
  load tables := tables.teachers.find? teacherId
  notFound := .httpException 404 "Teacher not found"
  dependents teacher tables := tables.courseOfferings.rows.filter fun row =>
    decide (row.teacherId = teacher.id)
  flush := flushDeleteTeacher
  referenced := .httpException 409
    "Cannot delete teacher due to assigned course offerings"

def deleteTeacher (teacherId : Id) : Py String := do
  let _ ← deleteRow (deleteTeacherRow teacherId)
  return "Teacher deleted successfully"

/-! ## Course offerings -/

structure OfferingDependents where
  courseSchedules : List CourseSchedule
  enrollments : List Enrollment

def flushDeleteCourseOffering (courseOffering : CourseOffering)
    (dependents : OfferingDependents) (tables : Tables) :
    Except SqlError Tables := do
  detachRequired dependents.courseSchedules fun row =>
    (tables.courseSchedules.find? row.id).isSome
  detachRequired dependents.enrollments fun row =>
    (tables.enrollments.find? row.id).isSome
  return { tables with
    courseOfferings := tables.courseOfferings.erase courseOffering.id }

def deleteCourseOfferingRow (courseOfferingId : Id) :
    RowDeletion CourseOffering OfferingDependents where
  label _ := .registrar
  load tables := tables.courseOfferings.find? courseOfferingId
  notFound := .httpException 404 "Course offering not found"
  dependents courseOffering tables := {
    courseSchedules := tables.courseSchedules.rows.filter fun row =>
      decide (row.courseOfferingId = courseOffering.id)
    enrollments := tables.enrollments.rows.filter fun row =>
      decide (row.courseOfferingId = courseOffering.id) }
  flush := flushDeleteCourseOffering
  referenced := .httpException 409
    "Cannot delete course offering due to active enrollments or schedules"

def deleteCourseOffering (courseOfferingId : Id) : Py String := do
  let _ ← deleteRow (deleteCourseOfferingRow courseOfferingId)
  return "Course offering deleted successfully"

end SystemUni.Crud.Registrar
