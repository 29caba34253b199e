import SystemUni.Routers.Effects

/-!
# What the flushes write

Every `INSERT`, `UPDATE` and `DELETE` that is accepted makes the change the
endpoint is for, unless there is no column to write.
-/

set_option autoImplicit false

namespace SystemUni.Routers.Flushes

open Relational
open SystemUni.Runtime.Errors
open SystemUni.Runtime.External
open SystemUni.Runtime.Statements
open SystemUni.Models.Rows
open SystemUni.Models.Changes
open SystemUni.Models.Jobs
open SystemUni.Models.Schema
open SystemUni.Crud.User
open SystemUni.Crud.Deletion
open SystemUni.Crud.Rows
open SystemUni.Crud.Student
open SystemUni.Crud.Enrollment
open SystemUni.Crud.Registrar
open SystemUni.Crud.RegistrarRows
open SystemUni.Crud.CourseSchedule
open SystemUni.Routers.Reports
open SystemUni.Routers.Frame
open SystemUni.Routers.Effects

/-! ## Rows -/

section Rows

variable {ρ δ : Type} {key : ρ → Id}

theorem creates_of_insertRow {access : TableAccess key} {fits : ρ → Bool}
    {row : ρ} {before after : Tables}
    (inserted : insertRow access fits row before = .ok after)
    {isRow : ρ → Prop} (holds : isRow row) :
    Creates access isRow before after := by
  unfold insertRow at inserted
  split at inserted
  · cases inserted
  split at inserted
  · rename_i fresh
    cases inserted
    exact ⟨row, holds, fresh, _, rfl, Table.sets_insert _ row fresh⟩
  · cases inserted

theorem updates_of_flushRow {access : TableAccess key} {rowId : Id}
    {change : RowChange key} {before after : Tables}
    (flushed : flushRow access rowId change before = .ok after) :
    change.empty = true ∧ after = before ∨
      ∃ old, (access.get before).find? rowId = some old ∧
        Edits access rowId (some (change.apply old)) before after := by
  unfold flushRow at flushed
  split at flushed
  · rename_i empty
    cases flushed
    exact .inl ⟨empty, rfl⟩
  split at flushed
  · cases flushed
  split at flushed
  · cases flushed
  · rename_i present
    cases flushed
    obtain ⟨old, found⟩ :=
      Option.ne_none_iff_exists'.mp (mt Option.isNone_iff_eq_none.mpr present)
    exact .inr ⟨old, found, _, rfl,
      Table.sets_updateWhere found change.apply change.same⟩

/-- The flush that deletes a row, with what was loaded before it. -/
def Removes (seen : Tables → Prop) (deletion : RowDeletion ρ δ)
    (effect : Tables → Tables → Prop) : Prop :=
  ∀ loaded row tables before after, deletion.load loaded = some row →
    seen tables →
      deletion.flush row (deletion.dependents row tables) before = .ok after →
        effect before after

theorem deletes_of_erase (access : TableAccess key) {rowId : Id}
    {row : ρ} {loaded before : Tables}
    (found : (access.get loaded).find? rowId = some row) :
    Deletes access rowId before
      (access.set ((access.get before).erase (key row)) before) := by
  rw [Table.key_of_find? found]
  exact ⟨_, rfl, Table.sets_erase _ rowId⟩

end Rows

/-! ## Columns -/

theorem assigned_getD {α : Type} [DecidableEq α] (loaded old : α)
    (given : Option α) :
    (assigned loaded given).getD old = merged given loaded old := by
  cases given with
  | none => rfl
  | some value =>
      by_cases same : loaded = value
      · simp [assigned, dirty, merged, same]
      · simp [assigned, dirty, merged, same]

theorem assignedTime_getD (loaded old : TimeOfDay)
    (given : Option ClockTime) :
    (assignedTime loaded given).getD old = mergedTime given loaded old := by
  cases given with
  | none => rfl
  | some time =>
      by_cases same : stored loaded = time
      · simp [assignedTime, mergedTime, same]
      · simp [assignedTime, mergedTime, same]

/-- The columns that an `UPDATE` writes make the change, and where there are
none there is no change. -/
structure Merges {ρ : Type} {key : ρ → Id} (change : ρ → RowChange key)
    (merge : ρ → ρ → ρ) : Prop where
  writes : ∀ loaded old, (change loaded).apply old = merge loaded old
  empty : ∀ loaded, (change loaded).empty = true →
    ∀ old, merge loaded old = old

theorem collegeChange_merges (update : CollegeUpdate) :
    Merges (collegeChange update) (collegeMerge update) where
  writes loaded old := by
    simp only [collegeChange, collegeMerge, assigned_getD]
  empty loaded nothing old := by
    simp only [collegeChange, Bool.and_eq_true,
      Option.isNone_iff_eq_none] at nothing
    simp only [collegeMerge, ← assigned_getD, nothing, Option.getD_none]

theorem departmentChange_merges (update : DepartmentUpdate) :
    Merges (departmentChange update) (departmentMerge update) where
  writes loaded old := by
    simp only [departmentChange, departmentMerge, assigned_getD]
  empty loaded nothing old := by
    simp only [departmentChange, Bool.and_eq_true,
      Option.isNone_iff_eq_none] at nothing
    simp only [departmentMerge, ← assigned_getD, nothing, Option.getD_none]

theorem teacherChange_merges (update : TeacherUpdate) :
    Merges (teacherChange update) (teacherMerge update) where
  writes loaded old := by
    simp only [teacherChange, teacherMerge, assigned_getD]
  empty loaded nothing old := by
    simp only [teacherChange, Bool.and_eq_true,
      Option.isNone_iff_eq_none] at nothing
    simp only [teacherMerge, ← assigned_getD, nothing, Option.getD_none]

theorem courseChange_merges (update : CourseUpdate) :
    Merges (courseChange update) (courseMerge update) where
  writes loaded old := by
    simp only [courseChange, courseMerge, assigned_getD]
  empty loaded nothing old := by
    simp only [courseChange, Bool.and_eq_true,
      Option.isNone_iff_eq_none] at nothing
    simp only [courseMerge, ← assigned_getD, nothing, Option.getD_none]

theorem courseOfferingChange_merges (update : CourseOfferingUpdate) :
    Merges (courseOfferingChange update) (courseOfferingMerge update) where
  writes loaded old := by
    simp only [courseOfferingChange, courseOfferingMerge, assigned_getD]
  empty loaded nothing old := by
    simp only [courseOfferingChange, Bool.and_eq_true,
      Option.isNone_iff_eq_none] at nothing
    simp only [courseOfferingMerge, ← assigned_getD, nothing,
      Option.getD_none]

theorem courseScheduleChange_merges (update : CourseScheduleUpdate) :
    Merges (courseScheduleChange update) (courseScheduleMerge update) where
  writes loaded old := by
    simp only [courseScheduleChange, courseScheduleMerge, assigned_getD,
      assignedTime_getD]
  empty loaded nothing old := by
    simp only [courseScheduleChange, Bool.and_eq_true,
      Option.isNone_iff_eq_none] at nothing
    simp only [courseScheduleMerge, ← assigned_getD, ← assignedTime_getD,
      nothing, Option.getD_none]

theorem enrollmentChange_merges (update : EnrollmentUpdate) :
    Merges (enrollmentChange update) (enrollmentMerge update) where
  writes loaded old := by
    simp only [enrollmentChange, enrollmentMerge, assigned_getD]
  empty loaded nothing old := by
    simp only [enrollmentChange, Bool.and_eq_true,
      Option.isNone_iff_eq_none] at nothing
    simp only [enrollmentMerge, ← assigned_getD, nothing, Option.getD_none]

/-! ## Deletions -/

section Deletions

variable {seen : Tables → Prop}

theorem removes_college (collegeId : Id) :
    Removes seen (deleteCollegeRow collegeId)
      ((collegeEffects seen).delete collegeId) := by
  intro loaded college tables before after found _ flushed
  cases rest_of_detachRequired flushed
  exact deletes_of_erase colleges found

/-- The courses that were loaded lose their department. -/
theorem detaches_courses {departmentId : Id} {tables before after : Tables}
    (detached : detachCourses (coursesOf departmentId tables) before =
      .ok after) :
    (∀ courseId, after.courses.find? courseId =
      (before.courses.find? courseId).map fun course =>
        if (tables.courses.find? courseId).any fun loaded =>
            decide (loaded.departmentId = some departmentId) then
          { course with departmentId := none }
        else course) ∧
      ∃ rows, after = courses.set rows before := by
  unfold detachCourses at detached
  split at detached
  · cases detached
    refine ⟨fun courseId => ?_, _, rfl⟩
    rw [Table.find?_updateWhere]
    cases found : before.courses.find? courseId with
    | none => rfl
    | some course =>
        have isId : course.id = courseId := Table.key_of_find? found
        have loads : isLoaded (coursesOf departmentId tables) course =
            (tables.courses.find? courseId).any fun loaded =>
              decide (loaded.departmentId = some departmentId) := by
          rw [Bool.eq_iff_iff, isLoaded, List.any_eq_true,
            Option.any_eq_true]
          constructor
          · rintro ⟨row, member, same⟩
            obtain ⟨listed, isDepartment⟩ := List.mem_filter.mp member
            have sameId : row.id = courseId :=
              (of_decide_eq_true same).trans isId
            exact ⟨row, sameId ▸ Table.find?_of_mem listed, isDepartment⟩
          · rintro ⟨row, isRow, isDepartment⟩
            have sameId : row.id = courseId := Table.key_of_find? isRow
            exact ⟨row, List.mem_filter.mpr
                ⟨Table.mem_of_find? isRow, isDepartment⟩,
              decide_eq_true (sameId.trans isId.symm)⟩
        simp only [Option.map_some, loads, detachCourse]
  · cases detached

theorem flushDeleteDepartment_ok {department : Department}
    {dependents : DepartmentDependents} {before after : Tables}
    (flushed : flushDeleteDepartment department dependents before =
      .ok after) :
    ∃ middle, detachCourses dependents.courses before = .ok middle ∧
      after = { middle with
        departments := middle.departments.erase department.id } := by
  have rest := rest_of_detachRequired (rest_of_detachRequired flushed)
  cases detached : detachCourses dependents.courses before with
  | error kind =>
      rw [detached] at rest
      cases rest
  | ok middle =>
      rw [detached] at rest
      cases rest
      exact ⟨middle, rfl, rfl⟩

theorem removes_department (departmentId : Id) :
    Removes seen (deleteDepartmentRow departmentId)
      ((departmentEffects seen).delete departmentId) := by
  intro loaded department tables before after found others flushed
  have isId : department.id = departmentId := Table.key_of_find? found
  obtain ⟨middle, detached, rfl⟩ := flushDeleteDepartment_ok flushed
  have ofDepartment : detachCourses (coursesOf departmentId tables) before =
      .ok middle := isId ▸ detached
  obtain ⟨unset, kept⟩ := detaches_courses ofDepartment
  exact ⟨middle, tables, others, unset, kept,
    deletes_of_erase departments found⟩

theorem removes_teacher (teacherId : Id) :
    Removes seen (deleteTeacherRow teacherId)
      ((teacherEffects seen).delete teacherId) := by
  intro loaded teacher tables before after found _ flushed
  cases rest_of_detachRequired flushed
  exact deletes_of_erase teachers found

theorem removes_course (courseId : Id) :
    Removes seen (deleteCourseRow courseId)
      ((courseEffects seen).delete courseId) := by
  intro loaded course tables before after found _ flushed
  cases rest_of_detachRequired flushed
  exact deletes_of_erase courses found

theorem removes_courseOffering (courseOfferingId : Id) :
    Removes seen (deleteCourseOfferingRow courseOfferingId)
      ((courseOfferingEffects seen).delete courseOfferingId) := by
  intro loaded courseOffering tables before after found _ flushed
  cases rest_of_detachRequired (rest_of_detachRequired flushed)
  exact deletes_of_erase courseOfferings found

theorem removes_courseSchedule (courseScheduleId : Id) :
    Removes seen (deleteCourseScheduleRow courseScheduleId)
      ((courseScheduleEffects seen).delete courseScheduleId) := by
  intro loaded courseSchedule tables before after found _ flushed
  cases flushed
  exact deletes_of_erase courseSchedules found

theorem removes_enrollment (enrollmentId : Id) :
    Removes seen (deleteEnrollmentRow enrollmentId)
      ((enrollmentEffects seen).delete enrollmentId) := by
  intro loaded enrollment tables before after found _ flushed
  cases flushed
  exact deletes_of_erase enrollments found

theorem removes_student (studentId : Id) :
    Removes seen (deleteStudentRow studentId)
      ((studentEffects seen).delete studentId) := by
  intro loaded student tables before after found _ flushed
  obtain ⟨_, _, _, _, rfl⟩ := flushDeleteStudent_ok flushed
  exact deletes_of_erase students found

end Deletions

/-! ## Enrollments and students -/

section Students

variable {seen : Tables → Prop} {before after : Tables}

theorem creates_enrollment {enrollment : EnrollmentCreate} {choice : Choice}
    (inserted : insertEnrollment (enrollment.row choice) before = .ok after) :
    (enrollmentEffects seen).create enrollment before after := by
  obtain ⟨fresh, rfl⟩ := insertEnrollment_ok inserted
  exact ⟨enrollment.row choice, ⟨rfl, rfl, rfl, rfl, rfl, rfl⟩, fresh, _, rfl,
    Table.sets_insert _ _ fresh⟩

theorem creates_student {student : StudentCreate} {choice : Choice}
    (inserted : insertStudent (student.row choice) before = .ok after) :
    (studentEffects seen).create student before after := by
  obtain ⟨fresh, rfl⟩ := insertStudent_ok inserted
  exact ⟨student.row choice, ⟨rfl, rfl, rfl, rfl, rfl, rfl⟩, fresh, _, rfl,
    Table.sets_insert _ _ fresh⟩

/-- A student that is written is at the version it was loaded at. -/
theorem saves_of_flushStudent {tables : Tables} {studentId : Id}
    {loaded : Student} {change : StudentChange}
    {condition : Student → Prop} {merge : Student → Student → Student}
    (isSeen : seen tables)
    (found : tables.students.find? studentId = some loaded)
    (holds : condition loaded)
    (merges : ∀ old, change.apply loaded.versionId old = merge loaded old)
    (flushed : flushStudent loaded change before = .ok after) :
    change = {} ∧ after = before ∨
      Saves seen studentId condition merge before after := by
  have isId : loaded.id = studentId := Table.key_of_find? found
  rcases flushStudent_ok flushed with
    unwritten | ⟨_, old, there, version, same⟩
  · exact .inl unwritten
  · rw [isId] at there same
    have edits := Table.sets_updateWhere there
      (change.apply loaded.versionId) (StudentChange.apply_id _ _)
    rw [merges] at edits
    exact .inr ⟨tables, loaded, old, isSeen, found, holds, there, version, _,
      same, edits⟩

theorem studentChange_apply (update : StudentUpdate) (loaded old : Student) :
    (studentChange loaded update).apply loaded.versionId old =
      studentMerge update loaded old := by
  have age : (update.age.bind fun age => dirty loaded.age (some age)) =
      assigned loaded.age (update.age.map some) := by
    cases update.age <;> rfl
  simp only [StudentChange.apply, studentChange, studentMerge, age,
    ← assigned_getD]
  rfl

theorem studentMerge_unwritten {update : StudentUpdate} {loaded : Student}
    (empty : studentChange loaded update = {}) (old : Student) :
    { studentMerge update loaded old with versionId := old.versionId } =
      old := by
  rw [← studentChange_apply, empty]
  rfl

/-- The linked student that was loaded is at its version. -/
theorem unlinks_of_flush {tables : Tables} {userId : Id}
    (isSeen : seen tables)
    (unlinked : unlinkStudent (tables.students.rows.find? fun row =>
      decide (row.userId = some userId)) before = .ok after) :
    Unlinks seen userId before after := by
  rcases unlinkStudent_ok unlinked with
    ⟨_, same⟩ | ⟨student, old, isLoaded, there, version, same⟩
  · exact .inl same
  · have found := Table.find?_of_mem (List.mem_of_find?_eq_some isLoaded)
    have linked : student.userId = some userId := by
      simpa using List.find?_some isLoaded
    exact .inr ⟨student.id, tables, student, old, isSeen, found, linked, there,
      version, _, same, Table.sets_updateWhere there
        (unlinkChange.apply student.versionId) (StudentChange.apply_id _ _)⟩

end Students

/-! ## Accounts and jobs -/

section Accounts

variable {libraries : Libraries} {before after : Tables}

theorem userChange_apply (loaded old : User)
    (username email passwordHash : Option String) (role : Option UserRole) :
    (userChange libraries loaded username email role passwordHash).apply old =
      userMerge libraries username email role passwordHash loaded old := by
  have lowered : (email.bind fun email =>
      dirty loaded.email (libraries.lower email)) =
        assigned loaded.email (email.map libraries.lower) := by
    cases email <;> rfl
  have version : (if passwordHash.isSome || role.isSome then
      some (loaded.tokenVersion + 1) else none).getD old.tokenVersion =
        if passwordHash.isSome ∨ role.isSome then loaded.tokenVersion + 1
        else old.tokenVersion := by
    by_cases revokes : passwordHash.isSome ∨ role.isSome
    · simp [revokes]
    · simp [revokes]
  simp only [UserChange.apply, userChange, userMerge, lowered, version,
    ← assigned_getD]
  rfl

theorem userMerge_unwritten {loaded : User}
    {username email passwordHash : Option String} {role : Option UserRole}
    (empty : userChange libraries loaded username email role passwordHash =
      {}) (old : User) :
    userMerge libraries username email role passwordHash loaded old = old := by
  rw [← userChange_apply, empty]
  rfl

theorem edits_of_flushUser {loaded : User} {change : UserChange}
    (flushed : flushUser loaded.id change before = .ok after) :
    change = {} ∧ after = before ∨
      ∃ old, before.users.find? loaded.id = some old ∧
        Edits users loaded.id (some (change.apply old)) before after := by
  rcases flushUser_ok flushed with unwritten | ⟨_, old, there, same⟩
  · exact .inl unwritten
  · exact .inr ⟨old, there, _, same,
      Table.sets_updateWhere there change.apply change.apply_id⟩

theorem deletes_of_flushDeleteUser {seen : Tables → Prop} {tables : Tables}
    {userId : Id} (isSeen : seen tables)
    (flushed : flushDeleteUser userId (tables.students.rows.find? fun row =>
      decide (row.userId = some userId)) before = .ok after) :
    (userEffects seen libraries).delete userId before after := by
  obtain ⟨unlinked, unlinks, rfl⟩ := flushDeleteUser_ok flushed
  have sameUsers : unlinked.users = before.users := by
    rcases unlinkStudent_ok unlinks with
      ⟨_, same⟩ | ⟨student, row, _, _, _, same⟩
    · rw [same]
    · rw [same]
  rw [← sameUsers]
  exact ⟨unlinked, unlinks_of_flush isSeen unlinks, _, rfl,
    Table.sets_erase _ userId⟩

theorem registers_of_insertUser {user : UserRegister} {salt : String}
    {newId : Id} {now : Time}
    (inserted : insertUser
      { id := newId
        username := user.username
        email := libraries.lower user.email
        role := .guest
        createdAt := now
        passwordHash := libraries.hashPassword salt user.password
        tokenVersion := 0 } before = .ok after) :
    Registers libraries user before after := by
  obtain ⟨fresh, rfl⟩ := insertUser_ok inserted
  exact ⟨_, ⟨rfl, rfl, rfl, rfl, salt, rfl⟩, fresh, _, rfl,
    Table.sets_insert _ _ fresh⟩

end Accounts

theorem enqueues_of_enqueueJob {user : User} {studentId : Id}
    {jobId : String} {choice : Choice} {record : Export}
    {before after : Queue}
    (enqueued : enqueueJob (newJob jobId user.id studentId choice.now) record
      before = .ok after) :
    Enqueues user studentId before after := by
  unfold enqueueJob at enqueued
  split at enqueued
  · rename_i fresh
    cases enqueued
    exact ⟨jobId, choice.now, fresh, Table.sets_insert _ _ fresh, rfl, rfl⟩
  · cases enqueued

end SystemUni.Routers.Flushes
