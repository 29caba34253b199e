import SystemUni.Models.Schema

/-!
# What may be deleted

The nine references between the tables, and what is left when a row that no
other row refers to is removed.
-/

set_option autoImplicit false

namespace SystemUni.Registrar.References

open Relational
open SystemUni.Models.Rows
open SystemUni.Models.Schema

/-- A row that one of the `delete_…` functions is called for. -/
inductive Target where
  | college (collegeId : Id)
  | department (departmentId : Id)
  | course (courseId : Id)
  | teacher (teacherId : Id)
  | courseOffering (courseOfferingId : Id)
  | student (studentId : Id)
  | user (userId : Id)

def Present (tables : Tables) : Target → Prop
  | .college collegeId => (tables.colleges.find? collegeId).isSome = true
  | .department departmentId =>
      (tables.departments.find? departmentId).isSome = true
  | .course courseId => (tables.courses.find? courseId).isSome = true
  | .teacher teacherId => (tables.teachers.find? teacherId).isSome = true
  | .courseOffering courseOfferingId =>
      (tables.courseOfferings.find? courseOfferingId).isSome = true
  | .student studentId => (tables.students.find? studentId).isSome = true
  | .user userId => (tables.users.find? userId).isSome = true

/-- Some row refers to the target. -/
def Referenced (tables : Tables) : Target → Prop
  | .college collegeId =>
      ∃ row ∈ tables.departments.rows, row.collegeId = collegeId
  | .department departmentId =>
      (∃ row ∈ tables.teachers.rows, row.departmentId = departmentId) ∨
        (∃ row ∈ tables.students.rows, row.departmentId = departmentId) ∨
        ∃ row ∈ tables.courses.rows, row.departmentId = some departmentId
  | .course courseId =>
      ∃ row ∈ tables.courseOfferings.rows, row.courseId = courseId
  | .teacher teacherId =>
      ∃ row ∈ tables.courseOfferings.rows, row.teacherId = teacherId
  | .courseOffering courseOfferingId =>
      (∃ row ∈ tables.courseSchedules.rows,
        row.courseOfferingId = courseOfferingId) ∨
        ∃ row ∈ tables.enrollments.rows,
          row.courseOfferingId = courseOfferingId
  | .student studentId =>
      ∃ row ∈ tables.enrollments.rows, row.studentId = studentId
  | .user userId => ∃ row ∈ tables.students.rows, row.userId = some userId

/-- Exactly the target row removed. -/
def remove (tables : Tables) : Target → Tables
  | .college collegeId =>
      { tables with colleges := tables.colleges.erase collegeId }
  | .department departmentId =>
      { tables with departments := tables.departments.erase departmentId }
  | .course courseId =>
      { tables with courses := tables.courses.erase courseId }
  | .teacher teacherId =>
      { tables with teachers := tables.teachers.erase teacherId }
  | .courseOffering courseOfferingId =>
      { tables with
        courseOfferings := tables.courseOfferings.erase courseOfferingId }
  | .student studentId =>
      { tables with students := tables.students.erase studentId }
  | .user userId => { tables with users := tables.users.erase userId }

theorem some_ne_of_unreferenced {ρ : Type} {rows : List ρ} {column : ρ → Id}
    {removed : Id} (unreferenced : ¬ ∃ row ∈ rows, column row = removed) :
    ∀ row ∈ rows, some (column row) ≠ some removed := by
  intro row member same
  exact unreferenced ⟨row, member, Option.some.inj same⟩

theorem admissible_remove {tables : Tables} (admissible : tables.Admissible)
    (target : Target) (unreferenced : ¬ Referenced tables target) :
    (remove tables target).Admissible := by
  obtain ⟨college, department, teacher, student, course, courseOffering,
    courseSchedule, enrollment, user⟩ := admissible
  cases target with
  | college collegeId =>
      exact {
        college := college.erase collegeId
        department := ⟨department.1, department.2.1,
          department.2.2.eraseParent (some_ne_of_unreferenced unreferenced)⟩
        teacher := teacher
        student := student
        course := course
        courseOffering := courseOffering
        courseSchedule := courseSchedule
        enrollment := enrollment
        user := user }
  | department departmentId =>
      obtain ⟨noTeacher, others⟩ := not_or.mp unreferenced
      obtain ⟨noStudent, noCourse⟩ := not_or.mp others
      exact {
        college := college
        department := ⟨department.1.erase departmentId,
          department.2.1.erase departmentId,
          department.2.2.erase departmentId⟩
        teacher := teacher.eraseParent (some_ne_of_unreferenced noTeacher)
        student := ⟨student.1, student.2.1,
          student.2.2.1.eraseParent (some_ne_of_unreferenced noStudent),
          student.2.2.2⟩
        course := ⟨course.1, course.2.1, course.2.2.eraseParent
          fun row member refers => noCourse ⟨row, member, refers⟩⟩
        courseOffering := courseOffering
        courseSchedule := courseSchedule
        enrollment := enrollment
        user := user }
  | course courseId =>
      exact {
        college := college
        department := department
        teacher := teacher
        student := student
        course := ⟨course.1.erase courseId, course.2.1.erase courseId,
          course.2.2.erase courseId⟩
        courseOffering := ⟨courseOffering.1, courseOffering.2.1.eraseParent
          (some_ne_of_unreferenced unreferenced), courseOffering.2.2⟩
        courseSchedule := courseSchedule
        enrollment := enrollment
        user := user }
  | teacher teacherId =>
      exact {
        college := college
        department := department
        teacher := teacher.erase teacherId
        student := student
        course := course
        courseOffering := ⟨courseOffering.1, courseOffering.2.1,
          courseOffering.2.2.eraseParent
            (some_ne_of_unreferenced unreferenced)⟩
        courseSchedule := courseSchedule
        enrollment := enrollment
        user := user }
  | courseOffering courseOfferingId =>
      obtain ⟨noSchedule, noEnrollment⟩ := not_or.mp unreferenced
      exact {
        college := college
        department := department
        teacher := teacher
        student := student
        course := course
        courseOffering := ⟨courseOffering.1.erase courseOfferingId,
          courseOffering.2.1.erase courseOfferingId,
          courseOffering.2.2.erase courseOfferingId⟩
        courseSchedule := ⟨courseSchedule.1, courseSchedule.2.1.eraseParent
          (some_ne_of_unreferenced noSchedule), courseSchedule.2.2⟩
        enrollment := ⟨enrollment.1, enrollment.2.1, enrollment.2.2.1,
          enrollment.2.2.2.1.eraseParent
            (some_ne_of_unreferenced noEnrollment), enrollment.2.2.2.2⟩
        user := user }
  | student studentId =>
      exact {
        college := college
        department := department
        teacher := teacher
        student := ⟨student.1.erase studentId, student.2.1.erase studentId,
          student.2.2.1.erase studentId, student.2.2.2.erase studentId⟩
        course := course
        courseOffering := courseOffering
        courseSchedule := courseSchedule
        enrollment := ⟨enrollment.1, enrollment.2.1,
          enrollment.2.2.1.eraseParent
            (some_ne_of_unreferenced unreferenced), enrollment.2.2.2⟩
        user := user }
  | user userId =>
      exact {
        college := college
        department := department
        teacher := teacher
        student := ⟨student.1, student.2.1, student.2.2.1,
          student.2.2.2.eraseParent
            fun row member refers => unreferenced ⟨row, member, refers⟩⟩
        course := course
        courseOffering := courseOffering
        courseSchedule := courseSchedule
        enrollment := enrollment
        user := ⟨user.1.erase userId, user.2.erase userId⟩ }

end SystemUni.Registrar.References
