import SystemUni.Crud.Registrar
import SystemUni.Crud.Student
import SystemUni.Registrar.References
import SystemUni.Runtime.Rules

/-!
# Deletes and the rows that refer to the target

No function refuses a delete itself.  A dependant whose foreign key cannot be
`NULL` makes the flush fail; one whose foreign key can be `NULL` is detached
and the delete goes through.
-/

set_option autoImplicit false

namespace SystemUni.Registrar.Deletes

open Interleaving Relational
open SystemUni.Runtime.Errors
open SystemUni.Runtime.Statements
open SystemUni.Runtime.Rules
open SystemUni.Models.Rows
open SystemUni.Models.Changes
open SystemUni.Models.Schema
open SystemUni.Crud.User
open SystemUni.Crud.Deletion
open SystemUni.Crud.Registrar
open SystemUni.Crud.Student
open SystemUni.Registrar.References

def delete : Target → Py String
  | .college collegeId => deleteCollege collegeId
  | .department departmentId => deleteDepartment departmentId
  | .course courseId => deleteCourse courseId
  | .teacher teacherId => deleteTeacher teacherId
  | .courseOffering courseOfferingId => deleteCourseOffering courseOfferingId
  | .student studentId => deleteStudent studentId
  | .user userId => deleteUser userId

/-- A referenced target is refused with 409 and nothing changes; any other
target is removed and nothing else changes. -/
def Lawful (store : Store) (target : Target) (result : Except Exc String)
    (after : Store) : Prop :=
  after.queue = store.queue ∧
  (Referenced store.db.tables target →
    (∃ detail, result = .error (.httpException 409 detail)) ∧
      after.db = store.db) ∧
  (¬ Referenced store.db.tables target →
    (∃ message, result = .ok message) ∧
      after.db.tables = remove store.db.tables target)

/-- Every row that refers to the target can be, and is, detached from it. -/
def Nullifies (tables : Tables) : Target → Prop
  | .department departmentId =>
      (∃ row ∈ tables.courses.rows, row.departmentId = some departmentId) ∧
        (¬ ∃ row ∈ tables.teachers.rows, row.departmentId = departmentId) ∧
        ¬ ∃ row ∈ tables.students.rows, row.departmentId = departmentId
  | .user userId => ∃ row ∈ tables.students.rows, row.userId = some userId
  | _ => False

/-- The guard of the last administrator lets the target through. -/
def GuardPasses (tables : Tables) : Target → Prop
  | .user userId => ∀ user, tables.users.find? userId = some user →
      user.role ≠ .admin ∨ 2 ≤ (tables.users.rows.filter isAdmin).length
  | _ => True

/-- The call, executed alone with every server call succeeding, does not wait
and ends as `post` says. -/
def EndsWith (me : Nat) (target : Target)
    (post : Except Exc String → Store → Prop) (store : Store) : Prop :=
  Alone callSucceeds me (delete target).run post store

section Generic

variable {me : Nat} {store : Store} {ρ δ : Type}

theorem finishes_deleteRow_removed {deletion : RowDeletion ρ δ} {row : ρ}
    {tables : Tables} (found : deletion.load store.db.tables = some row)
    (removes : deletion.flush row (deletion.dependents row store.db.tables)
      store.db.tables = .ok tables)
    (admissible : tables.Admissible) :
    Finishes callSucceeds me (deleteRow deletion)
      (fun _ later => later = store.setTables ⟨tables, admissible⟩)
      (fun _ _ => False) store := by
  refine finishes_bind (finishes_query ?_)
  rw [found]
  refine finishes_bind (finishes_tryCatch (finishes_bind (finishes_query
    (finishes_transaction ?_ ?_))))
  · intro choice done next _ body
    rw [Store.commit_of_ok removes admissible] at body
    cases body
    exact finishes_pure row rfl
  · intro choice exc _ body
    rw [Store.commit_of_ok removes admissible] at body
    cases body

theorem finishes_deleteRow_refused {deletion : RowDeletion ρ δ} {row : ρ}
    (found : deletion.load store.db.tables = some row)
    (refused : deletion.flush row (deletion.dependents row store.db.tables)
      store.db.tables = .error .integrityError) :
    Finishes callSucceeds me (deleteRow deletion) (fun _ _ => False)
      (fun exc later => exc = deletion.referenced ∧
        later = store.releaseLocks me) store := by
  refine finishes_bind (finishes_query ?_)
  rw [found]
  refine finishes_bind (finishes_tryCatch (finishes_bind (finishes_query
    (finishes_transaction ?_ ?_))))
  · intro choice done next _ body
    rw [Store.commit_of_error refused] at body
    cases body
  · intro choice exc _ body
    rw [Store.commit_of_error refused] at body
    cases body
    exact finishes_bind (finishes_command fun _ _ =>
      finishes_throw _ ⟨rfl, rfl⟩)

end Generic

/-! ## Dependants whose foreign key is required -/

section Required

variable {ρ : Type} {rows : List ρ} {column : ρ → Id} {removed : Id}
  {present : ρ → Bool}

theorem detachRequired_referenced (all : ∀ row ∈ rows, present row = true)
    (referenced : ∃ row ∈ rows, column row = removed) :
    detachRequired (rows.filter fun row => decide (column row = removed))
      present = .error .integrityError := by
  obtain ⟨row, member, refers⟩ := referenced
  have loaded : row ∈ rows.filter fun row => decide (column row = removed) :=
    List.mem_filter.mpr ⟨member, by simpa using refers⟩
  have notEmpty : (rows.filter fun row =>
      decide (column row = removed)).isEmpty = false := by
    rw [List.isEmpty_eq_false_iff_exists_mem]
    exact ⟨row, loaded⟩
  have found : (rows.filter fun row =>
      decide (column row = removed)).any present = true :=
    List.any_eq_true.mpr ⟨row, loaded, all row member⟩
  simp only [detachRequired, notEmpty, found, if_true]
  rfl

theorem detachRequired_unreferenced
    (unreferenced : ¬ ∃ row ∈ rows, column row = removed) :
    detachRequired (rows.filter fun row => decide (column row = removed))
      present = .ok () := by
  have empty : rows.filter (fun row => decide (column row = removed)) = [] := by
    rw [List.filter_eq_nil_iff]
    intro row member refers
    exact unreferenced ⟨row, member, by simpa using refers⟩
  rw [empty]
  rfl

end Required

theorem find?_isSome_of_mem {ρ : Type} {key : ρ → Id} {table : Table key} :
    ∀ row ∈ table.rows, (table.find? (key row)).isSome = true := by
  intro row member
  rw [Table.find?_of_mem member]
  rfl

/-! ## Each function -/

section Functions

variable {me : Nat} {store : Store} {ρ δ : Type}

theorem lawful_removed {target : Target} {message : String} {after : Store}
    (unreferenced : ¬ Referenced store.db.tables target)
    (tables : after.db.tables = remove store.db.tables target)
    (queue : after.queue = store.queue) :
    Lawful store target (.ok message) after :=
  ⟨queue, fun referenced => absurd referenced unreferenced,
    fun _ => ⟨⟨message, rfl⟩, tables⟩⟩

theorem lawful_refused {target : Target} {detail : String} {after : Store}
    (referenced : Referenced store.db.tables target)
    (db : after.db = store.db) (queue : after.queue = store.queue) :
    Lawful store target (.error (.httpException 409 detail)) after :=
  ⟨queue, fun _ => ⟨⟨detail, rfl⟩, db⟩,
    fun unreferenced => absurd referenced unreferenced⟩

theorem endsWith_of_finishes {target : Target} (program : Py String)
    {post : Except Exc String → Store → Prop}
    (calls : delete target = program)
    (finishes : Finishes (S := university) callSucceeds me program
      (fun message => post (.ok message)) (fun exc => post (.error exc))
      store) :
    EndsWith me target post store := by
  unfold EndsWith
  rw [calls]
  refine alone_mono (S := university) program.run store finishes ?_
  intro result after holds
  cases result with
  | ok message => exact holds
  | error exc => exact holds

/-- A delete whose flush is refused exactly when the target is referenced. -/
theorem endsWith_deleteRow {deletion : RowDeletion ρ δ} {row : ρ}
    {target : Target} {next : ρ → Py String}
    (calls : delete target = deleteRow deletion >>= next)
    (found : deletion.load store.db.tables = some row)
    (conflict : ∃ detail, deletion.referenced = .httpException 409 detail)
    (removes : ¬ Referenced store.db.tables target →
      deletion.flush row (deletion.dependents row store.db.tables)
        store.db.tables = .ok (remove store.db.tables target))
    (refuses : Referenced store.db.tables target →
      deletion.flush row (deletion.dependents row store.db.tables)
        store.db.tables = .error .integrityError)
    (answers : ∀ value later, Finishes callSucceeds me (next value)
      (fun _ after => after.db = later.db ∧ after.queue = later.queue)
      (fun _ _ => False) later) :
    EndsWith me target (Lawful store target) store := by
  refine endsWith_of_finishes _ calls ?_
  by_cases referenced : Referenced store.db.tables target
  · obtain ⟨detail, isConflict⟩ := conflict
    refine finishes_bind (finishes_mono
      (finishes_deleteRow_refused found (refuses referenced)) nofun ?_)
    rintro exc later ⟨rfl, rfl⟩
    rw [isConflict]
    exact lawful_refused referenced rfl rfl
  · have admissible := admissible_remove store.db.admissible target referenced
    refine finishes_bind (finishes_mono
      (finishes_deleteRow_removed found (removes referenced) admissible)
      ?_ nofun)
    rintro value later rfl
    refine finishes_mono (answers value _) ?_ nofun
    intro message after same
    refine lawful_removed referenced ?_ same.2
    rw [same.1]
    rfl

theorem answers_pure (message : String) (later : Store) :
    Finishes callSucceeds me (pure message : Py String)
      (fun _ after => after.db = later.db ∧ after.queue = later.queue)
      (fun _ _ => False) later :=
  finishes_pure message ⟨rfl, rfl⟩

theorem college_lawful {collegeId : Id} {college : College}
    (found : store.db.tables.colleges.find? collegeId = some college) :
    EndsWith me (.college collegeId) (Lawful store (.college collegeId))
      store := by
  obtain rfl : college.id = collegeId := Table.key_of_find? found
  refine endsWith_deleteRow rfl found ⟨_, rfl⟩ ?_ ?_
    fun _ later => answers_pure _ later
  · intro unreferenced
    simp only [deleteCollegeRow, flushDeleteCollege,
      detachRequired_unreferenced unreferenced]
    rfl
  · intro referenced
    simp only [deleteCollegeRow, flushDeleteCollege,
      detachRequired_referenced find?_isSome_of_mem referenced]
    rfl

theorem course_lawful {courseId : Id} {course : Course}
    (found : store.db.tables.courses.find? courseId = some course) :
    EndsWith me (.course courseId) (Lawful store (.course courseId)) store := by
  obtain rfl : course.id = courseId := Table.key_of_find? found
  refine endsWith_deleteRow rfl found ⟨_, rfl⟩ ?_ ?_
    fun _ later => answers_pure _ later
  · intro unreferenced
    simp only [deleteCourseRow, flushDeleteCourse,
      detachRequired_unreferenced unreferenced]
    rfl
  · intro referenced
    simp only [deleteCourseRow, flushDeleteCourse,
      detachRequired_referenced find?_isSome_of_mem referenced]
    rfl

theorem teacher_lawful {teacherId : Id} {teacher : Teacher}
    (found : store.db.tables.teachers.find? teacherId = some teacher) :
    EndsWith me (.teacher teacherId) (Lawful store (.teacher teacherId))
      store := by
  obtain rfl : teacher.id = teacherId := Table.key_of_find? found
  refine endsWith_deleteRow rfl found ⟨_, rfl⟩ ?_ ?_
    fun _ later => answers_pure _ later
  · intro unreferenced
    simp only [deleteTeacherRow, flushDeleteTeacher,
      detachRequired_unreferenced unreferenced]
    rfl
  · intro referenced
    simp only [deleteTeacherRow, flushDeleteTeacher,
      detachRequired_referenced find?_isSome_of_mem referenced]
    rfl

theorem courseOffering_lawful {courseOfferingId : Id}
    {courseOffering : CourseOffering}
    (found : store.db.tables.courseOfferings.find? courseOfferingId =
      some courseOffering) :
    EndsWith me (.courseOffering courseOfferingId)
      (Lawful store (.courseOffering courseOfferingId)) store := by
  obtain rfl : courseOffering.id = courseOfferingId :=
    Table.key_of_find? found
  refine endsWith_deleteRow rfl found ⟨_, rfl⟩ ?_ ?_
    fun _ later => answers_pure _ later
  · intro unreferenced
    obtain ⟨noSchedule, noEnrollment⟩ := not_or.mp unreferenced
    simp only [deleteCourseOfferingRow, flushDeleteCourseOffering,
      detachRequired_unreferenced noSchedule,
      detachRequired_unreferenced noEnrollment]
    rfl
  · intro referenced
    by_cases schedule : ∃ row ∈ store.db.tables.courseSchedules.rows,
        row.courseOfferingId = courseOffering.id
    · simp only [deleteCourseOfferingRow, flushDeleteCourseOffering,
        detachRequired_referenced find?_isSome_of_mem schedule]
      rfl
    · have enrollment := referenced.resolve_left schedule
      simp only [deleteCourseOfferingRow, flushDeleteCourseOffering,
        detachRequired_unreferenced schedule,
        detachRequired_referenced find?_isSome_of_mem enrollment]
      rfl

theorem answers_invalidated (studentId : Id) (mark : WriteMark)
    (message : String) (later : Store) :
    Finishes callSucceeds me
      (do
        invalidateStudentCache studentId mark
        return message)
      (fun _ after => after.db = later.db ∧ after.queue = later.queue)
      (fun _ _ => False) later :=
  finishes_bind (finishes_command fun _ _ => finishes_pure message ⟨rfl, rfl⟩)

theorem student_lawful {studentId : Id} {student : Student}
    (found : store.db.tables.students.find? studentId = some student) :
    EndsWith me (.student studentId) (Lawful store (.student studentId))
      store := by
  obtain rfl : student.id = studentId := Table.key_of_find? found
  refine endsWith_deleteRow rfl found ⟨_, rfl⟩ ?_ ?_
    fun _ later => answers_invalidated _ _ _ later
  · intro unreferenced
    simp only [deleteStudentRow, flushDeleteStudent, found, Option.any_some,
      decide_true, if_true, detachRequired_unreferenced unreferenced]
    rfl
  · intro referenced
    simp only [deleteStudentRow, flushDeleteStudent,
      detachRequired_referenced find?_isSome_of_mem referenced]
    rfl

/-! ## Departments -/

theorem find?_version_of_mem {table : Table Student.id} :
    ∀ row ∈ table.rows, ((table.find? row.id).any fun student =>
      decide (student.versionId = row.versionId)) = true := by
  intro row member
  rw [Table.find?_of_mem member]
  simp

theorem isLoaded_iff {tables : Tables} {departmentId : Id} {row : Course}
    (member : row ∈ tables.courses.rows) :
    isLoaded (coursesOf departmentId tables) row = true ↔
      row.departmentId = some departmentId := by
  unfold isLoaded coursesOf
  rw [List.any_eq_true]
  constructor
  · rintro ⟨course, loaded, same⟩
    obtain ⟨courseMember, refers⟩ := List.mem_filter.mp loaded
    have equal : course = row := tables.courses.eq_of_key_eq courseMember
      member (by simpa using same)
    subst equal
    simpa using refers
  · intro refers
    exact ⟨row, List.mem_filter.mpr ⟨member, by simpa using refers⟩, by simp⟩

/-- The tables after the courses of a department have been detached. -/
def detached (tables : Tables) (departmentId : Id) : Tables :=
  { tables with
    courses := tables.courses.updateWhere
      (isLoaded (coursesOf departmentId tables)) detachCourse detachCourse_id }

theorem detachCourses_loaded {tables : Tables} {departmentId : Id} :
    detachCourses (coursesOf departmentId tables) tables =
      .ok (detached tables departmentId) := by
  refine if_pos ?_
  rw [List.all_eq_true]
  intro row loaded
  exact find?_isSome_of_mem row (List.mem_filter.mp loaded).1

theorem detached_of_none {tables : Tables} {departmentId : Id}
    (noCourse : ¬ ∃ row ∈ tables.courses.rows,
      row.departmentId = some departmentId) :
    detached tables departmentId = tables := by
  unfold detached
  rw [Table.updateWhere_of_none]
  intro row member
  rw [Bool.eq_false_iff]
  exact fun loaded => noCourse ⟨row, member, (isLoaded_iff member).mp loaded⟩

/-- Courses can do without their department. -/
theorem admissible_detached {tables : Tables} (admissible : tables.Admissible)
    (departmentId : Id) : (detached tables departmentId).Admissible := by
  obtain ⟨college, department, teacher, student, course, courseOffering,
    courseSchedule, enrollment, user⟩ := admissible
  exact {
    college := college
    department := department
    teacher := teacher
    student := student
    course := ⟨course.1.clear detachCourse_id fun _ => .inl rfl,
      course.2.1.clear detachCourse_id fun _ => .inl rfl,
      course.2.2.clear detachCourse_id fun _ => .inl rfl⟩
    courseOffering := ⟨courseOffering.1,
      courseOffering.2.1.updateParent detachCourse_id, courseOffering.2.2⟩
    courseSchedule := courseSchedule
    enrollment := enrollment
    user := user }

theorem detached_unreferenced {tables : Tables} {departmentId : Id}
    (noTeacher : ¬ ∃ row ∈ tables.teachers.rows,
      row.departmentId = departmentId)
    (noStudent : ¬ ∃ row ∈ tables.students.rows,
      row.departmentId = departmentId) :
    ¬ Referenced (detached tables departmentId)
      (.department departmentId) := by
  rintro (teacher | student | ⟨row, member, refers⟩)
  · exact noTeacher teacher
  · exact noStudent student
  · obtain ⟨old, oldMember, rfl⟩ :=
      (Table.mem_updateWhere detachCourse_id).mp member
    split at refers
    · cases refers
    · rename_i notLoaded
      exact notLoaded ((isLoaded_iff oldMember).mpr refers)

/-- With neither teachers nor students the flush goes through. -/
theorem flushDeleteDepartment_detached {tables : Tables}
    {department : Department}
    (noTeacher : ¬ ∃ row ∈ tables.teachers.rows,
      row.departmentId = department.id)
    (noStudent : ¬ ∃ row ∈ tables.students.rows,
      row.departmentId = department.id) :
    (deleteDepartmentRow department.id).flush department
      ((deleteDepartmentRow department.id).dependents department tables)
      tables = .ok (remove (detached tables department.id)
        (.department department.id)) := by
  simp only [deleteDepartmentRow, flushDeleteDepartment,
    detachRequired_unreferenced noTeacher,
    detachRequired_unreferenced noStudent, detachCourses_loaded]
  rfl

theorem department_lawful {departmentId : Id} {department : Department}
    (found : store.db.tables.departments.find? departmentId = some department)
    (keeps : ¬ Nullifies store.db.tables (.department departmentId)) :
    EndsWith me (.department departmentId)
      (Lawful store (.department departmentId)) store := by
  obtain rfl : department.id = departmentId := Table.key_of_find? found
  refine endsWith_deleteRow rfl found ⟨_, rfl⟩ ?_ ?_
    fun _ later => answers_pure _ later
  · intro unreferenced
    obtain ⟨noTeacher, others⟩ := not_or.mp unreferenced
    obtain ⟨noStudent, noCourse⟩ := not_or.mp others
    rw [flushDeleteDepartment_detached noTeacher noStudent,
      detached_of_none noCourse]
  · intro referenced
    by_cases teacher : ∃ row ∈ store.db.tables.teachers.rows,
        row.departmentId = department.id
    · simp only [deleteDepartmentRow, flushDeleteDepartment,
        detachRequired_referenced find?_isSome_of_mem teacher]
      rfl
    by_cases student : ∃ row ∈ store.db.tables.students.rows,
        row.departmentId = department.id
    · simp only [deleteDepartmentRow, flushDeleteDepartment,
        detachRequired_unreferenced teacher,
        detachRequired_referenced find?_version_of_mem student]
      rfl
    · have course := (referenced.resolve_left teacher).resolve_left student
      exact absurd ⟨course, teacher, student⟩ keeps

theorem not_lawful_of_ok {target : Target} {message : String} {after : Store}
    (referenced : Referenced store.db.tables target) :
    ¬ Lawful store target (.ok message) after := by
  intro lawful
  obtain ⟨⟨detail, refused⟩, _⟩ := lawful.2.1 referenced
  cases refused

theorem department_nullified {departmentId : Id} {department : Department}
    (found : store.db.tables.departments.find? departmentId = some department)
    (nullifies : Nullifies store.db.tables (.department departmentId)) :
    EndsWith me (.department departmentId)
      (fun result after =>
        ¬ Lawful store (.department departmentId) result after) store := by
  obtain rfl : department.id = departmentId := Table.key_of_find? found
  obtain ⟨course, noTeacher, noStudent⟩ := nullifies
  have admissible := admissible_remove
    (admissible_detached store.db.admissible department.id) _
    (detached_unreferenced noTeacher noStudent)
  refine endsWith_of_finishes (deleteDepartment department.id) rfl
    (finishes_bind (finishes_mono
      (finishes_deleteRow_removed found
        (flushDeleteDepartment_detached noTeacher noStudent) admissible)
      ?_ nofun))
  exact fun _ later _ => finishes_pure _
    (not_lawful_of_ok (.inr (.inr course)))

end Functions

end SystemUni.Registrar.Deletes
