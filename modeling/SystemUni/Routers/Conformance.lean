import SystemUni.Routers.Flushes

/-!
# Endpoints do what they are for

Whatever runs beside a request, every statement of it leaves the database as
it is or makes the change that the endpoint is for.
-/

set_option autoImplicit false

namespace SystemUni.Routers.Conformance

open Interleaving Relational
open SystemUni.Runtime.Errors
open SystemUni.Runtime.External
open SystemUni.Runtime.Statements
open SystemUni.Runtime.Rules
open SystemUni.Runtime.Atomicity
open SystemUni.Models.Rows
open SystemUni.Models.Changes
open SystemUni.Models.Jobs
open SystemUni.Models.Schema
open SystemUni.Security.Auth
open SystemUni.Crud.User
open SystemUni.Crud.Deletion
open SystemUni.Crud.Rows
open SystemUni.Crud.Student
open SystemUni.Crud.Enrollment
open SystemUni.Crud.CourseSchedule
open SystemUni.Routers.Reports
open SystemUni.Routers.Api
open SystemUni.Routers.Frame
open SystemUni.Routers.Access
open SystemUni.Routers.Privilege
open SystemUni.Routers.Mediation
open SystemUni.Routers.Effects
open SystemUni.Routers.Flushes
open SystemUni.Accounts.Frame
open SystemUni.Accounts.Writers
open SystemUni.Students.Frame
open SystemUni.Application

/-! ## Programs with an effect -/

abbrev Change := Tables × Queue → Tables × Queue → Prop

/-- Every statement leaves the database as it is or has the effect. -/
def effectScope (moment : Time → Tables → Prop) (effect : Change) :
    Scope university Unit where
  view _ := ()
  condition := moments moment
  law _ _ _ before after := database after = database before ∨
    effect (database before) (database after)

abbrev Affects {α : Type} (moment : Time → Tables → Prop) (effect : Change)
    (program : Py α) : Prop :=
  Settles (effectScope moment effect) program (fun _ => True) fun _ => True

theorem effects_idle (moment : Time → Tables → Prop) (effect : Change) :
    Idles (effectScope moment effect) := fun _ _ _ _ => .inl rfl

theorem database_besideLocks : BesideLocks database :=
  ⟨fun _ _ _ => rfl, fun _ _ => rfl⟩

section Rules

variable {moment : Time → Tables → Prop} {effect : Change} {α β : Type}

theorem affects_leaves {program : Py α} (leaves : Leaves database program) :
    Affects moment effect program :=
  settles_still (fun _ _ _ _ _ same => ⟨Or.inl same, rfl⟩) leaves

theorem affects_bind {program : Py α} {rest : α → Py β} {post : α → Prop}
    (first : Settles (effectScope moment effect) program post fun _ => True)
    (second : ∀ value, post value → Affects moment effect (rest value)) :
    Affects moment effect (program >>= rest) :=
  settles_bind (settles_mono first second fun _ _ => trivial)

/-- What precedes or follows leaves the database alone. -/
theorem affects_then {program : Py α} {rest : α → Py β}
    (leaves : Leaves database program)
    (second : ∀ value, Affects moment effect (rest value)) :
    Affects moment effect (program >>= rest) :=
  affects_bind (affects_leaves leaves) fun value _ => second value

theorem affects_before {program : Py α} {rest : α → Py β}
    (first : Affects moment effect program)
    (leaves : ∀ value, Leaves database (rest value)) :
    Affects moment effect (program >>= rest) :=
  affects_bind first fun value _ => affects_leaves (leaves value)

theorem affects_silent {program : Py α}
    (affects : Affects moment effect program) :
    Affects moment effect (silent program) :=
  affects_before affects fun _ => leaves_pure

theorem affects_throw {exc : Exc} :
    Affects moment effect (throw exc : Py α) := settles_throw trivial

theorem affects_checked {refused : Prop} [Decidable refused] {exc : Exc}
    {rest : Py α} (affects : ¬ refused → Affects moment effect rest) :
    Affects moment effect (do
      if refused then throw exc
      rest) := by
  split
  · exact affects_bind (settles_throw trivial : Settles _ _ (fun _ => False) _)
      fun _ impossible => impossible.elim
  · rename_i passed
    exact affects passed

theorem affects_tryCatch {program : Py α} {handler : Exc → Py α}
    (affects : Affects moment effect program)
    (leaves : ∀ exc, Leaves database (handler exc)) :
    Affects moment effect (tryCatch program handler) :=
  settles_tryCatch (settles_mono affects (fun _ _ => trivial)
    fun exc _ => affects_leaves (leaves exc))

theorem affects_handled {program : Py α} {handler : Exc → Py α}
    (affects : Affects moment effect program) (handles : Handles handler) :
    Affects moment effect (tryCatch program handler) :=
  affects_tryCatch affects (leaves_handled database_besideLocks handles)

/-- What is loaded is from tables that are seen. -/
def Loaded (moment : Time → Tables → Prop) (read : Tables → α) (value : α) :
    Prop :=
  ∃ tables, (∃ now, moment now tables) ∧ value = read tables

theorem settles_loads (read : Tables → α) :
    Settles (effectScope moment effect)
      (query fun store => read store.db.tables) (Loaded moment read)
      fun _ => True :=
  settles_reads (effects_idle moment effect)
    (fun choice store seen => ⟨committed store, ⟨choice.now, seen⟩, rfl⟩)
    fun _ => trivial

theorem settles_selects {fits : Bool} (read : Tables → α) :
    Settles (effectScope moment effect)
      (select fits fun store => read store.db.tables) (Loaded moment read)
      fun _ => True :=
  settles_select (effects_idle moment effect)
    (fun choice store seen => ⟨committed store, ⟨choice.now, seen⟩, rfl⟩)
    fun _ => trivial

theorem affects_loads (read : Tables → α) {rest : α → Py β}
    (second : ∀ tables, (∃ now, moment now tables) →
      Affects moment effect (rest (read tables))) :
    Affects moment effect
      ((query fun store => read store.db.tables) >>= rest) := by
  refine affects_bind (settles_loads read) ?_
  rintro value ⟨tables, seen, rfl⟩
  exact second tables seen

theorem affects_selects {fits : Bool} (read : Tables → α) {rest : α → Py β}
    (second : ∀ tables, (∃ now, moment now tables) →
      Affects moment effect (rest (read tables))) :
    Affects moment effect
      ((select fits fun store => read store.db.tables) >>= rest) := by
  refine affects_bind (settles_selects read) ?_
  rintro value ⟨tables, seen, rfl⟩
  exact second tables seen

theorem affects_statement {label : Label} {ready : Nat → Store → Bool}
    {body : Nat → Choice → Store → Except Exc (α × Store)}
    (writes : ∀ me choice store value next,
      body me choice store = .ok (value, next) →
        database next = database store ∨
          effect (database store) (database next)) :
    Affects moment effect (lockingTransaction label ready body) :=
  settles_statement (effects_idle moment effect)
    (fun me choice store value next _ result =>
      ⟨writes me choice store value next result, rfl, trivial⟩)
    fun _ => trivial

end Rules

/-! ## Commits -/

section Commits

variable {moment : Time → Tables → Prop} {effect : Tables → Tables → Prop}
  {α : Type}

theorem affects_flushes {label : Label}
    {flush : Tables → Except SqlError Tables}
    (writes : ∀ before after, flush before = .ok after →
      after = before ∨ effect before after) :
    Affects moment (onTables effect)
      (transaction label fun _ store => store.commit flush) := by
  refine affects_statement ?_
  intro me choice store done next body
  obtain ⟨db, flushed, rfl⟩ := Store.commit_ok body
  rcases writes _ _ flushed with same | has
  · exact .inl (Prod.ext same rfl)
  · exact .inr ⟨has, rfl⟩

theorem affects_releases {label : Label} {ready : Nat → Store → Bool}
    {flush : Tables → Except SqlError Tables}
    (writes : ∀ before after, flush before = .ok after →
      after = before ∨ effect before after) :
    Affects moment (onTables effect)
      (lockingTransaction label ready fun me _ store =>
        (store.releaseLocks me).commit flush) := by
  refine affects_statement ?_
  intro me choice store done next body
  obtain ⟨db, flushed, rfl⟩ := Store.commit_ok body
  rcases writes _ _ flushed with same | has
  · exact .inl (Prod.ext same rfl)
  · exact .inr ⟨has, rfl⟩

theorem affects_inserts {label : Label}
    {insert : Choice → Tables → Except SqlError Tables} {answer : Choice → α}
    (writes : ∀ choice before after, insert choice before = .ok after →
      effect before after) :
    Affects moment (onTables effect)
      (transaction label fun choice store =>
        (store.commit (insert choice)).map fun done =>
          (answer choice, done.2)) := by
  refine affects_statement ?_
  intro me choice store value next body
  obtain ⟨done, committed, becomes⟩ := mapped_ok body
  cases becomes
  obtain ⟨db, inserted, same⟩ := Store.commit_ok committed
  rw [same]
  exact .inr ⟨writes choice _ _ inserted, rfl⟩

end Commits

/-! ## Rows -/

section Rows

variable {moment : Time → Tables → Prop} {ρ δ : Type} {key : ρ → Id}

theorem affects_createRow {access : TableAccess key} {fits : ρ → Bool}
    {errors : WriteErrors} {row : Choice → ρ} {isRow : ρ → Prop}
    (holds : ∀ choice, isRow (row choice)) :
    Affects moment (onTables (Creates access isRow))
      (createRow access fits errors row) :=
  affects_handled
    (affects_before
      (affects_inserts fun choice _ _ inserted =>
        creates_of_insertRow inserted (holds choice))
      fun rowId => leaves_refreshRow access rowId)
    (handles_writeErrors errors)

theorem affects_updateRow {access : TableAccess key} {notFound : Exc}
    {errors : WriteErrors} {change : ρ → RowChange key}
    {check : ρ → Except Exc Unit} {rowId : Id} {merge : ρ → ρ → ρ}
    (merges : Merges change merge) :
    Affects moment
      (onTables (Updates (fun tables => ∃ now, moment now tables) access rowId
        merge))
      (updateRow access notFound errors change check rowId) := by
  refine affects_selects (fun tables =>
    (access.get tables).find? rowId) fun tables seen => ?_
  cases found : (access.get tables).find? rowId with
  | none => exact affects_throw
  | some loaded =>
      simp only
      cases check loaded with
      | error exc => exact affects_throw
      | ok passed =>
          refine affects_handled (affects_before (affects_flushes ?_)
            fun _ => leaves_refreshRow access (key loaded))
            (handles_writeErrors errors)
          intro before after flushed
          rw [Table.key_of_find? found] at flushed
          rcases updates_of_flushRow flushed with
            ⟨_, same⟩ | ⟨old, there, edits⟩
          · exact .inl same
          · rw [merges.writes] at edits
            exact .inr ⟨tables, loaded, old, seen, found, there, edits⟩

theorem affects_deleteRow {deletion : RowDeletion ρ δ}
    {effect : Tables → Tables → Prop}
    (removes : Removes (fun tables => ∃ now, moment now tables) deletion
      effect) :
    Affects moment (onTables effect) (deleteRow deletion) := by
  refine affects_loads deletion.load fun loaded _ => ?_
  cases found : deletion.load loaded with
  | none => exact affects_throw
  | some row =>
      refine affects_before (affects_handled ?_
        (handles_referenced deletion.referenced)) fun _ => leaves_pure
      refine affects_loads (deletion.dependents row)
        fun tables others => affects_flushes fun before after flushed => ?_
      exact .inr (removes loaded row tables before after found others flushed)

theorem affects_message {program : Py ρ} {effect : Change} {message : String}
    (affects : Affects moment effect program) :
    Affects moment effect (silent do
      let _ ← program
      return message) :=
  affects_silent (affects_before affects fun _ => leaves_pure)

end Rows

/-! ## The endpoints of a table -/

/-- Each endpoint of a table has its effect and no other. -/
structure Conforms {ι υ : Type} (moment : Time → Tables → Prop)
    (effects : TableEffects ι υ) (endpoints : TableEndpoints ι υ) : Prop where
  create : ∀ payload,
    Affects moment (onTables (effects.create payload))
      (endpoints.create payload)
  read : ∀ user rowId, Leaves database (endpoints.read user rowId)
  list : ∀ user skip limit, Leaves database (endpoints.list user skip limit)
  update : ∀ payload rowId,
    Affects moment (onTables (effects.update payload rowId))
      (endpoints.update payload rowId)
  delete : ∀ rowId,
    Affects moment (onTables (effects.delete rowId)) (endpoints.delete rowId)

theorem Conforms.program {ι υ : Type} {moment : Time → Tables → Prop}
    {effects : TableEffects ι υ} {endpoints : TableEndpoints ι υ}
    (conforms : Conforms moment effects endpoints) {libraries : Libraries}
    (credentials : Option String) (route : TableRoute ι υ) :
    Affects moment (onTables (effects.effect route))
      (endpoints.program libraries credentials route) := by
  cases route with
  | create payload =>
      exact affects_then (leaves_requireRoles _ credentials)
        fun _ => conforms.create payload
  | read rowId =>
      exact affects_leaves (leaves_bind (leaves_requireRoles _ credentials)
        fun user => conforms.read user rowId)
  | list skip limit =>
      exact affects_leaves (leaves_bind (leaves_requireRoles _ credentials)
        fun user => conforms.list user skip limit)
  | update payload rowId =>
      exact affects_then (leaves_requireRoles _ credentials)
        fun _ => conforms.update payload rowId
  | delete rowId =>
      exact affects_then (leaves_requireRoles _ credentials)
        fun _ => conforms.delete rowId

section Tables

variable {moment : Time → Tables → Prop}

/-- Tables that are committed at such a moment. -/
abbrev Seen (moment : Time → Tables → Prop) (tables : Tables) : Prop :=
  ∃ now, moment now tables

theorem colleges_conform :
    Conforms moment (collegeEffects (Seen moment)) collegeEndpoints where
  create _ := affects_silent (affects_createRow fun _ => ⟨rfl, rfl⟩)
  read _ collegeId := leaves_silent (leaves_readRow _ _ collegeId)
  list _ skip limit := leaves_silent (leaves_readRows _ skip limit)
  update update _ :=
    affects_silent (affects_updateRow (collegeChange_merges update))
  delete collegeId :=
    affects_message (affects_deleteRow (removes_college collegeId))

theorem departments_conform :
    Conforms moment (departmentEffects (Seen moment)) departmentEndpoints where
  create _ := affects_silent (affects_createRow fun _ => ⟨rfl, rfl, rfl⟩)
  read _ departmentId := leaves_silent (leaves_readRow _ _ departmentId)
  list _ skip limit := leaves_silent (leaves_readRows _ skip limit)
  update update _ :=
    affects_silent (affects_updateRow (departmentChange_merges update))
  delete departmentId :=
    affects_message (affects_deleteRow (removes_department departmentId))

theorem teachers_conform :
    Conforms moment (teacherEffects (Seen moment)) teacherEndpoints where
  create _ := affects_silent (affects_createRow fun _ => ⟨rfl, rfl⟩)
  read _ teacherId := leaves_silent (leaves_readRow _ _ teacherId)
  list _ skip limit := leaves_silent (leaves_readRows _ skip limit)
  update update _ :=
    affects_silent (affects_updateRow (teacherChange_merges update))
  delete teacherId :=
    affects_message (affects_deleteRow (removes_teacher teacherId))

theorem courses_conform :
    Conforms moment (courseEffects (Seen moment)) courseEndpoints where
  create _ := affects_silent (affects_createRow fun _ => ⟨rfl, rfl, rfl⟩)
  read _ courseId := leaves_silent (leaves_readRow _ _ courseId)
  list _ skip limit := leaves_silent (leaves_readRows _ skip limit)
  update update _ :=
    affects_silent (affects_updateRow (courseChange_merges update))
  delete courseId :=
    affects_message (affects_deleteRow (removes_course courseId))

theorem courseOfferings_conform :
    Conforms moment (courseOfferingEffects (Seen moment))
      courseOfferingEndpoints where
  create _ := affects_silent
    (affects_createRow fun _ => ⟨rfl, rfl, rfl, rfl, rfl⟩)
  read _ courseOfferingId :=
    leaves_silent (leaves_readRow _ _ courseOfferingId)
  list _ skip limit := leaves_silent (leaves_readRows _ skip limit)
  update update _ :=
    affects_silent (affects_updateRow (courseOfferingChange_merges update))
  delete courseOfferingId :=
    affects_message
      (affects_deleteRow (removes_courseOffering courseOfferingId))

theorem affects_createCourseSchedule (courseSchedule : CourseScheduleCreate) :
    Affects moment
      (onTables ((courseScheduleEffects (Seen moment)).create courseSchedule))
      (createCourseSchedule courseSchedule) := by
  unfold createCourseSchedule
  split
  · exact affects_throw
  · exact affects_createRow fun _ => ⟨rfl, rfl, rfl, rfl, rfl, rfl⟩

theorem courseSchedules_conform :
    Conforms moment (courseScheduleEffects (Seen moment))
      courseScheduleEndpoints where
  create courseSchedule :=
    affects_silent (affects_createCourseSchedule courseSchedule)
  read _ courseScheduleId :=
    leaves_silent (leaves_readRow _ _ courseScheduleId)
  list _ skip limit := leaves_silent (leaves_readRows _ skip limit)
  update update _ :=
    affects_silent (affects_updateRow (courseScheduleChange_merges update))
  delete courseScheduleId :=
    affects_message
      (affects_deleteRow (removes_courseSchedule courseScheduleId))

/-! ## Enrollments and students -/

theorem affects_createEnrollment (enrollment : EnrollmentCreate) :
    Affects moment
      (onTables ((enrollmentEffects (Seen moment)).create enrollment))
      (createEnrollment enrollment) := by
  refine affects_then leaves_select fun student => affects_checked fun _ => ?_
  refine affects_then leaves_select fun courseOffering =>
    affects_checked fun _ => ?_
  refine affects_then leaves_select fun existingEnrollment =>
    affects_checked fun _ => ?_
  refine affects_then leaves_select fun existingCode =>
    affects_checked fun _ => ?_
  refine affects_handled (affects_before (affects_inserts ?_) fun _ => ?_)
    handles_enrollmentErrors
  · exact fun choice before after inserted => creates_enrollment inserted
  · refine leaves_bind leaves_query fun found => ?_
    cases found with
    | none => exact leaves_throw
    | some row => exact leaves_pure

theorem enrollments_conform :
    Conforms moment (enrollmentEffects (Seen moment)) enrollmentEndpoints where
  create enrollment := affects_silent (affects_createEnrollment enrollment)
  read user enrollmentId :=
    leaves_silent (leaves_readEnrollment enrollmentId user)
  list user skip limit := leaves_silent (leaves_readEnrollments user skip limit)
  update update _ :=
    affects_silent (affects_updateRow (enrollmentChange_merges update))
  delete enrollmentId :=
    affects_message (affects_deleteRow (removes_enrollment enrollmentId))

theorem affects_saves {student : Student} {change : StudentChange}
    {carried : Option Nat} {refresh : Py Student}
    {handler : Exc → Py Student} (marks : Student → Id × WriteMark)
    {effect : Tables → Tables → Prop}
    (writes : ∀ before after, flushStudent student change before = .ok after →
      after = before ∨ effect before after)
    (refreshes : Leaves database refresh) (handles : Handles handler) :
    Affects moment (onTables effect) (do
      let updated ← tryCatch
        (do
          commitStudent student change carried
          refresh)
        handler
      invalidateStudentCache (marks updated).1 (marks updated).2
      return updated) :=
  affects_before
    (affects_handled
      (affects_before (affects_flushes writes) fun _ => refreshes) handles)
    fun _ => leaves_bind (leaves_command fun _ _ _ => rfl) fun _ => leaves_pure

theorem affects_updateStudent (update : StudentUpdate) (studentId : Id) :
    Affects moment
      (onTables ((studentEffects (Seen moment)).update update studentId))
      (updateStudent update studentId) := by
  refine affects_loads (fun tables =>
    tables.students.find? studentId) fun tables seen => ?_
  cases found : tables.students.find? studentId with
  | none => exact affects_throw
  | some student =>
      refine affects_checked fun matches_ => ?_
      refine affects_saves (fun _ => (studentId, _))
        (fun before after flushed => ?_) (leaves_refreshStudent student.id)
        handles_studentErrors
      refine (saves_of_flushStudent seen found ?_
        (studentChange_apply update student) flushed).imp_left And.right
      intro version given
      simpa [given] using matches_

theorem affects_linkStudentToUser (studentId userId : Id) :
    Affects moment
      (onTables (Saves (Seen moment) studentId
        (fun loaded => loaded.userId = none) (linkedTo (some userId))))
      (linkStudentToUser studentId userId) := by
  refine affects_loads (fun tables =>
    tables.students.find? studentId) fun tables seen => ?_
  cases found : tables.students.find? studentId with
  | none => exact affects_throw
  | some student =>
      refine affects_then leaves_query fun account => ?_
      cases account with
      | none => exact affects_throw
      | some user =>
          refine affects_checked fun unlinked =>
            affects_then leaves_query fun linked => affects_checked fun _ => ?_
          refine affects_saves (fun updated => (updated.id, _))
            (fun before after flushed => ?_) ?_ handles_linkErrors
          · exact (saves_of_flushStudent seen found (by simpa using unlinked)
              (fun old => rfl) flushed).imp_left And.right
          · exact leaves_bind (leaves_refreshStudent student.id)
              fun updated => leaves_bind (leaves_refreshUser user.id)
                fun _ => leaves_pure

theorem affects_createStudent (student : StudentCreate) :
    Affects moment
      (onTables ((studentEffects (Seen moment)).create student))
      (createStudent student) := by
  exact affects_handled (affects_before
    (affects_inserts fun choice before after inserted =>
      creates_student inserted)
    fun newStudent => leaves_refreshStudent newStudent.id) handles_createErrors

theorem affects_deleteStudent (studentId : Id) :
    Affects moment
      (onTables ((studentEffects (Seen moment)).delete studentId))
      (deleteStudent studentId) := by
  exact affects_before (affects_deleteRow (removes_student studentId))
    fun _ => leaves_bind (leaves_command fun _ _ _ => rfl) fun _ => leaves_pure

theorem students_conform {libraries : Libraries} :
    Conforms moment (studentEffects (Seen moment))
      (studentEndpoints libraries) where
  create student := affects_silent (affects_createStudent student)
  read user studentId :=
    leaves_silent (leaves_readStudent (fun _ _ => rfl) studentId user)
  list user skip limit := leaves_silent (leaves_readStudents user skip limit)
  update update studentId :=
    affects_silent (affects_updateStudent update studentId)
  delete studentId := affects_silent (affects_deleteStudent studentId)

end Tables

/-! ## Accounts -/

section Accounts

variable {moment : Time → Tables → Prop} {libraries : Libraries}

theorem settles_hashPassword {effect : Change} (password : String) :
    Settles (effectScope moment effect) (hashPassword libraries password)
      (fun passwordHash =>
        ∃ salt, passwordHash = libraries.hashPassword salt password)
      fun _ => True :=
  settles_bind (settles_command (fun _ _ _ => .inl rfl) (fun _ _ _ => rfl)
    fun _ choice _ => settles_pure ⟨choice.salt, rfl⟩)

theorem settles_hashOptional {effect : Change} (password : Option String) :
    Settles (effectScope moment effect) (hashOptional libraries password)
      (Hashes libraries password) fun _ => True := by
  cases password with
  | none => exact settles_pure ⟨"", rfl⟩
  | some password =>
      refine settles_bind (settles_mono (settles_hashPassword password) ?_
        fun _ holds => holds)
      rintro passwordHash ⟨salt, rfl⟩
      exact settles_pure ⟨salt, rfl⟩

theorem affects_saveUser {effect : Tables → Tables → Prop} {user : User}
    {change : UserChange}
    (writes : ∀ before after old, before.users.find? user.id = some old →
      Edits users user.id (some (change.apply old)) before after →
        effect before after) :
    Affects moment (onTables effect)
      (tryCatch
        (do
          commitUser user change
          refreshUser user.id)
        handleUserErrors) := by
  refine affects_handled (affects_before (affects_releases ?_)
    fun _ => leaves_refreshUser user.id) handles_userErrors
  intro before after flushed
  rcases edits_of_flushUser flushed with ⟨_, same⟩ | ⟨old, there, edits⟩
  · exact .inl same
  · exact .inr (writes before after old there edits)

theorem affects_updateUser (update : UserUpdate) (userId : Id) :
    Affects moment
      (onTables ((userEffects (Seen moment) libraries).update update userId))
      (updateUser libraries update userId) := by
  refine affects_loads (fun tables => tables.users.find? userId)
    fun tables seen => ?_
  cases found : tables.users.find? userId with
  | none => exact affects_throw
  | some user =>
      have isId : user.id = userId := Table.key_of_find? found
      refine affects_then
        (leaves_ensureAdminRemains database_besideLocks user update.role)
        fun _ => affects_bind (settles_hashOptional update.password)
          fun passwordHash hashes => affects_saveUser ?_
      intro before after old there edits
      rw [userChange_apply] at edits
      rw [isId] at there edits
      exact ⟨passwordHash, hashes, tables, user, old, seen, found, there,
        edits⟩

theorem affects_updateUserMe {credentials : Option String}
    (update : UserSelfUpdate) {user : User}
    (requester : IsRequester moment libraries credentials user) :
    Affects moment
      (onTables (UpdatesOwn moment libraries credentials update))
      (updateUserMe libraries update user) := by
  refine affects_bind (settles_hashOptional update.password)
    fun passwordHash hashes => affects_saveUser ?_
  intro before after old there edits
  rw [userChange_apply] at edits
  exact ⟨user, passwordHash, old, requester, hashes, there, edits⟩

theorem affects_deleteUser (userId : Id) :
    Affects moment
      (onTables ((userEffects (Seen moment) libraries).delete userId))
      (deleteUser userId) := by
  refine affects_loads (fun tables => tables.users.find? userId)
    fun loadedTables _ => ?_
  cases found : loadedTables.users.find? userId with
  | none => exact affects_throw
  | some user =>
      have isId : user.id = userId := Table.key_of_find? found
      refine affects_then (leaves_ensureAdminRemains database_besideLocks user
        none) fun _ => affects_before ?_ fun _ => leaves_pure
      refine affects_handled ?_ (handles_referenced userReferenced)
      refine affects_loads (fun tables =>
        tables.students.rows.find? fun row =>
          decide (row.userId = some user.id)) fun tables seen => ?_
      refine affects_releases fun before after flushed => .inr ?_
      rw [isId] at flushed
      exact deletes_of_flushDeleteUser seen flushed

theorem users_conform :
    Conforms moment (userEffects (Seen moment) libraries)
      (userEndpoints libraries) where
  create payload := nomatch payload
  read _ userId := leaves_silent (leaves_readUser userId)
  list _ skip limit := leaves_silent (leaves_readUsers skip limit)
  update update userId := affects_silent (affects_updateUser update userId)
  delete userId := affects_silent (affects_deleteUser userId)

theorem affects_registerUser (user : UserRegister) :
    Affects moment (onTables (Registers libraries user))
      (registerUser libraries user) := by
  refine affects_bind (settles_hashPassword user.password) ?_
  rintro passwordHash ⟨salt, rfl⟩
  exact affects_handled (affects_before
    (affects_inserts fun choice before after inserted =>
      registers_of_insertUser inserted)
    fun newUser => leaves_refreshUser newUser.id) handles_userErrors

theorem affects_exportTranscriptAsync {credentials : Option String}
    (studentId : Id) {user : User}
    (requester : IsRequester moment libraries credentials user) :
    Affects moment (Effect moment libraries credentials
      (.exportTranscriptAsync studentId))
      (exportTranscriptAsync studentId user) := by
  refine affects_selects (fun tables =>
    tables.students.find? studentId) fun tables seen => ?_
  cases found : tables.students.find? studentId with
  | none => exact affects_throw
  | some student =>
      refine affects_checked fun allowed => ?_
      refine affects_then leaves_observe fun jobId =>
        affects_before (affects_statement ?_) fun _ => leaves_pure
      intro me choice store done next body
      obtain ⟨queue, enqueued, becomes⟩ := mapped_ok body
      cases becomes
      obtain ⟨now, moment⟩ := seen
      exact .inr ⟨rfl, user, now, tables, student, requester, moment, found,
        by simpa using allowed, enqueues_of_enqueueJob enqueued⟩

end Accounts

/-! ## All endpoints -/

section Requests

variable {moment : Time → Tables → Prop} {libraries : Libraries}
  {settings : Settings}

theorem settles_requester {effect : Change} (allowed : List UserRole)
    (credentials : Option String) :
    Settles (effectScope moment effect)
      (requireRoles libraries allowed credentials)
      (IsRequester moment libraries credentials) fun _ => True := by
  refine settles_bind (settles_mono (settles_getCurrentUser
    (effects_idle moment effect) fun _ _ _ seen => seen) ?_ fun _ _ => trivial)
  intro user requester
  split
  · exact settles_throw trivial
  · exact settles_pure requester

theorem affects_program (credentials : Option String) (route : Route) :
    Affects moment (Effect moment libraries credentials route)
      (route.program libraries settings credentials) := by
  cases route with
  | healthCheck => exact affects_leaves (leaves_silent leaves_healthCheck)
  | getTranscript studentId =>
      exact affects_leaves (leaves_bind (leaves_requireRoles _ credentials)
        fun user => leaves_silent (leaves_getTranscript studentId user))
  | exportTranscriptAsync studentId =>
      exact affects_bind (settles_requester _ credentials) fun user requester =>
        affects_silent (affects_exportTranscriptAsync studentId requester)
  | getJobStatus jobId =>
      exact affects_leaves (leaves_bind (leaves_requireRoles _ credentials)
        fun user => leaves_silent (leaves_getJobStatus jobId user))
  | college route => exact colleges_conform.program credentials route
  | course route => exact courses_conform.program credentials route
  | courseOffering route =>
      exact courseOfferings_conform.program credentials route
  | department route => exact departments_conform.program credentials route
  | teacher route => exact teachers_conform.program credentials route
  | student route => exact students_conform.program credentials route
  | linkStudentUser studentId userId =>
      exact affects_then (leaves_requireRoles _ credentials)
        fun _ => affects_silent (affects_linkStudentToUser studentId userId)
  | enrollment route => exact enrollments_conform.program credentials route
  | courseSchedule route =>
      exact courseSchedules_conform.program credentials route
  | getCurrentUser =>
      exact affects_leaves (leaves_silent (leaves_getCurrentUser credentials))
  | updateCurrentUser update =>
      exact affects_bind (settles_getCurrentUser (effects_idle moment _)
        fun _ _ _ seen => seen) fun user requester =>
          affects_silent (affects_updateUserMe update requester)
  | getCurrentStudent =>
      exact affects_leaves (leaves_bind (leaves_getCurrentUser credentials)
        fun user => leaves_silent (leaves_getCurrentStudentEndpoint user))
  | user route => exact users_conform.program credentials route
  | registerUser user =>
      exact affects_then leaves_limited fun _ =>
        affects_silent (affects_registerUser user)
  | loginUser userLogin =>
      exact affects_leaves (leaves_bind leaves_limited fun _ =>
        leaves_silent (leaves_loginUser userLogin))

theorem affects_serve (credentials : Option String) (route : Route) :
    Affects moment (Effect moment libraries credentials route)
      (route.serve libraries settings credentials) := by
  have rolls : Leaves database rollback := leaves_rollback database_besideLocks
  have handled : Affects moment (Effect moment libraries credentials route)
      (tryCatch (route.program libraries settings credentials) fun exc => do
        rollback
        throw exc) :=
    affects_tryCatch (affects_program credentials route)
      fun _ => leaves_rolledBack database_besideLocks
  exact affects_before (affects_tryCatch handled
    fun _ => leaves_rolledBack database_besideLocks)
    fun _ => leaves_bind rolls fun _ => leaves_pure

end Requests

/-! ## Runs -/

/-- In every run, whatever runs beside a request and however calls end: where
a statement of the request changes the committed database, it makes the change
that the endpoint is for. -/
theorem changes_as_asked (libraries : Libraries) (settings : Settings)
    (moment : Time → Tables → Prop) (credentials : Option String)
    (route : Route) (thread : Nat)
    (first config next : Config university (Except Exc Unit))
    (serving : first.threads[thread]? =
      some (route.serve libraries settings credentials).run)
    (before : Run (application libraries settings) (moments moment) first
      config)
    (label : Label) (choice : Choice)
    (transition : Transition (application libraries settings) config
      (.act thread label choice) next)
    (seen : moment choice.now (committed config.store))
    (changes : database next.store ≠ database config.store) :
    Effect moment libraries credentials route (database config.store)
      (database next.store) := by
  have obeys := obeys_always
    (effectScope moment (Effect moment libraries credentials route))
    (affects_serve credentials route) serving before transition seen
  exact obeys.resolve_left changes

/-! ### Two updates of one college -/

/-- An administrator whose token is the first one. -/
def governedTables : Tables :=
  { sampleTables with users := ⟨[{ sampleUser with role := .admin }],
      by decide⟩ }

def governedStore : Store := { db := ⟨governedTables, by decide⟩ }

def nameUpdate : Route := .college (.update { name := some "Arts" } 1)

def codeUpdate : Route := .college (.update { code := some "ART" } 1)

def bothUpdating : Config university (Except Exc Unit) where
  store := governedStore
  threads :=
    [served (some "first") nameUpdate, served (some "first") codeUpdate]

def unrenamed (_ : Time) (tables : Tables) : Prop :=
  (tables.colleges.find? 1).map College.name = some "Science"

instance (now : Time) (tables : Tables) : Decidable (unrenamed now tables) :=
  inferInstanceAs (Decidable (_ = _))

def unrenamedCheck (_ : Label) (choice : Choice) (store : Store) : Bool :=
  decide (unrenamed choice.now (committed store))

theorem unrenamedCheck_moments (label : Label) (choice : Choice)
    (store : Store) (checked : unrenamedCheck label choice store = true) :
    moments unrenamed label choice store := by
  have holds : unrenamed choice.now (committed store) :=
    of_decide_eq_true checked
  exact holds

/-- One update has loaded the college, then the other has written its code. -/
def recoded : Config university (Except Exc Unit) :=
  bothUpdating.played sampleApplication unrenamedCheck
    (plain [0, 0, 0, 1, 1, 1, 1])

def renamed : Config university (Except Exc Unit) :=
  recoded.played sampleApplication unrenamedCheck [⟨0, {}⟩]

/-- Both updates show. -/
example : renamed.store.db.tables.colleges.rows =
    [⟨1, "Arts", "ART", 0⟩] := by cbv

theorem recoded_name : (recoded.store.db.tables.colleges.find? 1).map
    College.name = some "Science" := by cbv

theorem renamed_name : (renamed.store.db.tables.colleges.find? 1).map
    College.name = some "Arts" := by cbv

theorem changes_as_asked_overtaken :
    Effect unrenamed sampleLibraries (some "first") nameUpdate
      (database recoded.store) (database renamed.store) := by
  refine changes_as_asked sampleLibraries .default unrenamed (some "first")
    nameUpdate 0 bothUpdating recoded renamed rfl
    (bothUpdating.played_run sampleApplication unrenamedCheck
      (moments unrenamed) unrenamedCheck_moments _ (by cbv)) .registrar {}
    (recoded.played_transition sampleApplication unrenamedCheck ⟨0, {}⟩
      (by cbv) (by cbv)) recoded_name ?_
  intro same
  have names : (renamed.store.db.tables.colleges.find? 1).map College.name =
      (recoded.store.db.tables.colleges.find? 1).map College.name :=
    congrArg (fun seen : Tables × Queue =>
      (seen.1.colleges.find? 1).map College.name) same
  rw [recoded_name, renamed_name] at names
  simp at names

end SystemUni.Routers.Conformance
