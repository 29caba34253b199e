import SystemUni.Interleaving.Deliveries
import SystemUni.Routers.Conformance

/-!
# Acknowledged requests are done

A request that answers a success has made its change: one of its statements
has committed what the endpoint is for.  The exception is an update that found
nothing to write.
-/

set_option autoImplicit false

namespace SystemUni.Routers.Acknowledgement

open Interleaving Relational
open SystemUni.Runtime.Errors
open SystemUni.Runtime.External
open SystemUni.Runtime.Statements
open SystemUni.Runtime.Rules
open SystemUni.Models.Rows
open SystemUni.Models.Changes
open SystemUni.Models.Schema
open SystemUni.Security.Auth
open SystemUni.Crud.User
open SystemUni.Crud.Deletion
open SystemUni.Crud.Rows
open SystemUni.Crud.Student
open SystemUni.Crud.Enrollment
open SystemUni.Crud.CourseSchedule
open SystemUni.Routers.Reports
open SystemUni.Routers.Api
open SystemUni.Routers.Privilege
open SystemUni.Routers.Mediation
open SystemUni.Routers.Effects
open SystemUni.Routers.Flushes
open SystemUni.Routers.Conformance
open SystemUni.Accounts.Writers
open SystemUni.Application

/-! ## Updates that write nothing -/

section Unwritten

variable (seen : Tables → Prop)

/-- All that is given was so already in the row that was loaded. -/
def Unwritten {ρ : Type} {key : ρ → Id} (access : TableAccess key)
    (rowId : Id) (merge : ρ → ρ → ρ) : Prop :=
  ∃ tables loaded, seen tables ∧
    (access.get tables).find? rowId = some loaded ∧
    ∀ old, merge loaded old = old

def onUpdate {ι υ : Type} (unwritten : υ → Id → Prop) :
    TableRoute ι υ → Prop
  | .create _ => False
  | .read _ => False
  | .list _ _ => False
  | .update payload rowId => unwritten payload rowId
  | .delete _ => False

/-- The version goes up with a write only. -/
def studentUnwritten (update : StudentUpdate) (studentId : Id) : Prop :=
  Unwritten seen students studentId fun loaded old =>
    { studentMerge update loaded old with versionId := old.versionId }

def userUnwritten (libraries : Libraries) (update : UserUpdate)
    (userId : Id) : Prop :=
  ∃ passwordHash, Hashes libraries update.password passwordHash ∧
    Unwritten seen users userId (userMerge libraries update.username
      update.email update.role passwordHash)

end Unwritten

def NothingToWrite (moment : Time → Tables → Prop) (libraries : Libraries)
    (credentials : Option String) (route : Route) : Prop :=
  let seen tables := ∃ now, moment now tables
  match route with
  | .healthCheck => False
  | .getTranscript _ => False
  | .exportTranscriptAsync _ => False
  | .getJobStatus _ => False
  | .college route => onUpdate (fun update collegeId =>
      Unwritten seen colleges collegeId (collegeMerge update)) route
  | .course route => onUpdate (fun update courseId =>
      Unwritten seen courses courseId (courseMerge update)) route
  | .courseOffering route => onUpdate (fun update courseOfferingId =>
      Unwritten seen courseOfferings courseOfferingId
        (courseOfferingMerge update)) route
  | .department route => onUpdate (fun update departmentId =>
      Unwritten seen departments departmentId (departmentMerge update)) route
  | .teacher route => onUpdate (fun update teacherId =>
      Unwritten seen teachers teacherId (teacherMerge update)) route
  | .student route => onUpdate (studentUnwritten seen) route
  | .linkStudentUser _ _ => False
  | .enrollment route => onUpdate (fun update enrollmentId =>
      Unwritten seen enrollments enrollmentId (enrollmentMerge update)) route
  | .courseSchedule route => onUpdate (fun update courseScheduleId =>
      Unwritten seen courseSchedules courseScheduleId
        (courseScheduleMerge update)) route
  | .getCurrentUser => False
  | .updateCurrentUser update => ∃ user passwordHash,
      IsRequester moment libraries credentials user ∧
      Hashes libraries update.password passwordHash ∧
      ∀ old, userMerge libraries update.username update.email none
        passwordHash user old = old
  | .getCurrentStudent => False
  | .user route => onUpdate (userUnwritten seen libraries) route
  | .registerUser _ => False
  | .loginUser _ => False

def Done (effect : Change) (unwritten : Prop) : Change := fun before after =>
  effect before after ∨ after = before ∧ unwritten

/-! ## Programs that only succeed once it is done -/

def committing (done : Change) : Law university :=
  fun _ _ _ before after => done (database before) (database after)

abbrev Completes {α : Type} (moment : Time → Tables → Prop) (done : Change)
    (program : Py α) : Prop :=
  Delivers (moments moment) (committing done) program (fun _ => False)
    fun _ => True

section Rules

variable {moment : Time → Tables → Prop} {done : Change} {α β : Type}

theorem completes_throw {exc : Exc} :
    Completes moment done (throw exc : Py α) := delivers_throw trivial

theorem completes_then {program : Py α} {rest : α → Py β}
    (second : ∀ value, Completes moment done (rest value)) :
    Completes moment done (program >>= rest) :=
  delivers_bind (delivers_any second fun _ => trivial)

theorem completes_before {program : Py α} {rest : α → Py β}
    (first : Completes moment done program) :
    Completes moment done (program >>= rest) :=
  delivers_bind (delivers_mono first (fun _ impossible => impossible.elim)
    fun _ _ => trivial)

theorem completes_reads {effect : Change} {program : Py α}
    {rest : α → Py β} {post : α → Prop}
    (first : Settles (effectScope moment effect) program post fun _ => True)
    (second : ∀ value, post value → Completes moment done (rest value)) :
    Completes moment done (program >>= rest) := by
  have reads : Delivers (moments moment) (committing done) program post
      fun _ => True := Prog.Settles.delivers first _
  exact delivers_bind (delivers_mono reads second fun _ _ => trivial)

theorem completes_loads (read : Tables → α) {rest : α → Py β}
    (second : ∀ tables, (∃ now, moment now tables) →
      Completes moment done (rest (read tables))) :
    Completes moment done
      ((query fun store => read store.db.tables) >>= rest) := by
  refine completes_reads (@settles_loads _ done _ read) ?_
  rintro value ⟨tables, seen, rfl⟩
  exact second tables seen

theorem completes_selects {fits : Bool} (read : Tables → α) {rest : α → Py β}
    (second : ∀ tables, (∃ now, moment now tables) →
      Completes moment done (rest (read tables))) :
    Completes moment done
      ((select fits fun store => read store.db.tables) >>= rest) := by
  refine completes_reads (@settles_selects _ done _ fits read) ?_
  rintro value ⟨tables, seen, rfl⟩
  exact second tables seen

theorem completes_checked {refused : Prop} [Decidable refused] {exc : Exc}
    {rest : Py α} (completes : ¬ refused → Completes moment done rest) :
    Completes moment done (do
      if refused then throw exc
      rest) := by
  split
  · exact completes_before completes_throw
  · rename_i passed
    exact completes passed

theorem completes_tryCatch {program : Py α} {handler : Exc → Py α}
    (completes : Completes moment done program)
    (throws : ∀ exc, Completes moment done (handler exc)) :
    Completes moment done (tryCatch program handler) :=
  delivers_tryCatch (delivers_mono completes (fun _ holds => holds)
    fun exc _ => throws exc)

theorem completes_rolledBack {reported : Exc} :
    Completes moment done (do
      rollback
      throw reported : Py α) :=
  completes_then fun _ => completes_throw

theorem completes_handled {program : Py α} {handler : Exc → Py α}
    (completes : Completes moment done program) (handles : Handles handler) :
    Completes moment done (tryCatch program handler) := by
  refine completes_tryCatch completes fun exc => ?_
  rcases handles exc with same | ⟨_, _, reported, _, _, same⟩
  · rw [same]
    exact completes_throw
  · rw [same]
    exact completes_rolledBack

theorem completes_statement {label : Label} {ready : Nat → Store → Bool}
    {body : Nat → Choice → Store → Except Exc (α × Store)}
    (writes : ∀ me choice store value next,
      body me choice store = .ok (value, next) →
        done (database store) (database next)) :
    Completes moment done (lockingTransaction label ready body) := by
  intro me choice store _ _
  change done (database store)
      (database (written choice.call (body me choice store) store)) ∨
    answersWith (fun _ => False) (fun _ => True)
      (answered choice.call (body me choice store))
  cases result : body me choice store with
  | error exc =>
      right
      cases choice.call <;> trivial
  | ok pair =>
      have made := writes me choice store pair.1 pair.2 result
      cases choice.call with
      | done => exact .inl made
      | failed kind text => exact .inr trivial
      | lost kind text => exact .inl made

/-! ### Commits -/

variable {effect : Tables → Tables → Prop} {unwritten : Prop}

theorem completes_flushes (session : Nat → Store → Store) {label : Label}
    {ready : Nat → Store → Bool} {flush : Tables → Except SqlError Tables}
    (besides : ∀ me store, database (session me store) = database store)
    (writes : ∀ before after, flush before = .ok after →
      effect before after ∨ after = before ∧ unwritten) :
    Completes moment (Done (onTables effect) unwritten)
      (lockingTransaction label ready fun me _ store =>
        (session me store).commit flush) := by
  refine completes_statement ?_
  intro me choice store value next body
  obtain ⟨db, flushed, rfl⟩ := Store.commit_ok body
  have sameDatabase := besides me store
  have sameTables : (session me store).db.tables = store.db.tables :=
    congrArg Prod.fst sameDatabase
  have sameQueue : (session me store).queue = store.queue :=
    congrArg Prod.snd sameDatabase
  rw [sameTables] at flushed
  rcases writes _ _ flushed with has | ⟨same, nothing⟩
  · exact .inl ⟨has, sameQueue⟩
  · exact .inr ⟨Prod.ext same sameQueue, nothing⟩

theorem completes_inserts {label : Label}
    {insert : Choice → Tables → Except SqlError Tables} {answer : Choice → α}
    (writes : ∀ choice before after, insert choice before = .ok after →
      effect before after) :
    Completes moment (Done (onTables effect) unwritten)
      (transaction label fun choice store =>
        (store.commit (insert choice)).map fun done =>
          (answer choice, done.2)) := by
  refine completes_statement ?_
  intro me choice store value next body
  obtain ⟨result, committed, becomes⟩ := mapped_ok body
  cases becomes
  obtain ⟨db, inserted, same⟩ := Store.commit_ok committed
  rw [same]
  exact .inl ⟨writes choice _ _ inserted, rfl⟩

end Rules

/-! ## Rows -/

section Rows

variable {moment : Time → Tables → Prop} {ρ δ : Type} {key : ρ → Id}
  {unwritten : Prop}

theorem completes_createRow {access : TableAccess key} {fits : ρ → Bool}
    {errors : WriteErrors} {row : Choice → ρ} {isRow : ρ → Prop}
    (holds : ∀ choice, isRow (row choice)) :
    Completes moment (Done (onTables (Creates access isRow)) unwritten)
      (createRow access fits errors row) :=
  completes_handled
    (completes_before (completes_inserts fun choice _ _ inserted =>
      creates_of_insertRow inserted (holds choice)))
    (handles_writeErrors errors)

theorem completes_updateRow {access : TableAccess key} {notFound : Exc}
    {errors : WriteErrors} {change : ρ → RowChange key}
    {check : ρ → Except Exc Unit} {rowId : Id} {merge : ρ → ρ → ρ}
    (merges : Merges change merge) :
    Completes moment
      (Done (onTables (Updates (Seen moment) access rowId merge))
        (Unwritten (Seen moment) access rowId merge))
      (updateRow access notFound errors change check rowId) := by
  refine completes_selects (fun tables => (access.get tables).find? rowId)
    fun tables seen => ?_
  cases found : (access.get tables).find? rowId with
  | none => exact completes_throw
  | some loaded =>
      simp only
      cases check loaded with
      | error exc => exact completes_throw
      | ok passed =>
          refine completes_handled (completes_before (completes_flushes
            (fun _ store => store) (fun _ _ => rfl) ?_))
            (handles_writeErrors errors)
          intro before after flushed
          rw [Table.key_of_find? found] at flushed
          rcases updates_of_flushRow flushed with
            ⟨empty, same⟩ | ⟨old, there, edits⟩
          · exact .inr ⟨same, tables, loaded, seen, found,
              merges.empty loaded empty⟩
          · rw [merges.writes] at edits
            exact .inl ⟨tables, loaded, old, seen, found, there, edits⟩

theorem completes_deleteRow {deletion : RowDeletion ρ δ}
    {effect : Tables → Tables → Prop}
    (removes : Removes (Seen moment) deletion effect) :
    Completes moment (Done (onTables effect) unwritten)
      (deleteRow deletion) := by
  refine completes_loads deletion.load fun loaded _ => ?_
  cases found : deletion.load loaded with
  | none => exact completes_throw
  | some row =>
      refine completes_before (completes_handled ?_
        (handles_referenced deletion.referenced))
      refine completes_loads (deletion.dependents row) fun tables others =>
        completes_flushes (fun _ store => store) (fun _ _ => rfl)
          fun before after flushed => .inl ?_
      exact removes loaded row tables before after found others flushed

end Rows

/-! ## The endpoints of a table -/

structure Acknowledges {ι υ : Type} (moment : Time → Tables → Prop)
    (effects : TableEffects ι υ) (unwritten : υ → Id → Prop)
    (endpoints : TableEndpoints ι υ) : Prop where
  create : ∀ payload,
    Completes moment (Done (onTables (effects.create payload)) False)
      (endpoints.create payload)
  update : ∀ payload rowId,
    Completes moment (Done (onTables (effects.update payload rowId))
      (unwritten payload rowId)) (endpoints.update payload rowId)
  delete : ∀ rowId,
    Completes moment (Done (onTables (effects.delete rowId)) False)
      (endpoints.delete rowId)

theorem Acknowledges.program {ι υ : Type} {moment : Time → Tables → Prop}
    {effects : TableEffects ι υ} {unwritten : υ → Id → Prop}
    {endpoints : TableEndpoints ι υ}
    (acknowledges : Acknowledges moment effects unwritten endpoints)
    {libraries : Libraries} (credentials : Option String)
    (route : TableRoute ι υ) (writes : tableDemand route ≠ .reads) :
    Completes moment (Done (onTables (effects.effect route))
        (onUpdate unwritten route))
      (endpoints.program libraries credentials route) := by
  cases route with
  | create payload => exact completes_then fun _ => acknowledges.create payload
  | read rowId => exact absurd rfl writes
  | list skip limit => exact absurd rfl writes
  | update payload rowId =>
      exact completes_then fun _ => acknowledges.update payload rowId
  | delete rowId => exact completes_then fun _ => acknowledges.delete rowId

section Tables

variable {moment : Time → Tables → Prop}

theorem colleges_acknowledge : Acknowledges moment
    (collegeEffects (Seen moment)) (fun update collegeId =>
      Unwritten (Seen moment) colleges collegeId (collegeMerge update))
    collegeEndpoints where
  create _ := completes_before (completes_createRow fun _ => ⟨rfl, rfl⟩)
  update update _ :=
    completes_before (completes_updateRow (collegeChange_merges update))
  delete collegeId := completes_before
    (completes_before (completes_deleteRow (removes_college collegeId)))

theorem departments_acknowledge : Acknowledges moment
    (departmentEffects (Seen moment)) (fun update departmentId =>
      Unwritten (Seen moment) departments departmentId
        (departmentMerge update))
    departmentEndpoints where
  create _ := completes_before (completes_createRow fun _ => ⟨rfl, rfl, rfl⟩)
  update update _ :=
    completes_before (completes_updateRow (departmentChange_merges update))
  delete departmentId := completes_before
    (completes_before (completes_deleteRow (removes_department departmentId)))

theorem teachers_acknowledge : Acknowledges moment
    (teacherEffects (Seen moment)) (fun update teacherId =>
      Unwritten (Seen moment) teachers teacherId (teacherMerge update))
    teacherEndpoints where
  create _ := completes_before (completes_createRow fun _ => ⟨rfl, rfl⟩)
  update update _ :=
    completes_before (completes_updateRow (teacherChange_merges update))
  delete teacherId := completes_before
    (completes_before (completes_deleteRow (removes_teacher teacherId)))

theorem courses_acknowledge : Acknowledges moment
    (courseEffects (Seen moment)) (fun update courseId =>
      Unwritten (Seen moment) courses courseId (courseMerge update))
    courseEndpoints where
  create _ := completes_before (completes_createRow fun _ => ⟨rfl, rfl, rfl⟩)
  update update _ :=
    completes_before (completes_updateRow (courseChange_merges update))
  delete courseId := completes_before
    (completes_before (completes_deleteRow (removes_course courseId)))

theorem courseOfferings_acknowledge : Acknowledges moment
    (courseOfferingEffects (Seen moment)) (fun update courseOfferingId =>
      Unwritten (Seen moment) courseOfferings courseOfferingId
        (courseOfferingMerge update))
    courseOfferingEndpoints where
  create _ := completes_before
    (completes_createRow fun _ => ⟨rfl, rfl, rfl, rfl, rfl⟩)
  update update _ :=
    completes_before (completes_updateRow (courseOfferingChange_merges update))
  delete courseOfferingId := completes_before (completes_before
    (completes_deleteRow (removes_courseOffering courseOfferingId)))

theorem completes_createCourseSchedule
    (courseSchedule : CourseScheduleCreate) :
    Completes moment
      (Done (onTables
        ((courseScheduleEffects (Seen moment)).create courseSchedule)) False)
      (createCourseSchedule courseSchedule) := by
  unfold createCourseSchedule
  split
  · exact completes_throw
  · exact completes_createRow fun _ => ⟨rfl, rfl, rfl, rfl, rfl, rfl⟩

theorem courseSchedules_acknowledge : Acknowledges moment
    (courseScheduleEffects (Seen moment)) (fun update courseScheduleId =>
      Unwritten (Seen moment) courseSchedules courseScheduleId
        (courseScheduleMerge update))
    courseScheduleEndpoints where
  create courseSchedule :=
    completes_before (completes_createCourseSchedule courseSchedule)
  update update _ :=
    completes_before (completes_updateRow (courseScheduleChange_merges update))
  delete courseScheduleId := completes_before (completes_before
    (completes_deleteRow (removes_courseSchedule courseScheduleId)))

/-! ### Enrollments and students -/

theorem completes_createEnrollment (enrollment : EnrollmentCreate) :
    Completes moment
      (Done (onTables ((enrollmentEffects (Seen moment)).create enrollment))
        False)
      (createEnrollment enrollment) := by
  refine completes_then fun student => completes_checked fun _ => ?_
  refine completes_then fun courseOffering => completes_checked fun _ => ?_
  refine completes_then fun existingEnrollment => completes_checked fun _ => ?_
  refine completes_then fun existingCode => completes_checked fun _ => ?_
  exact completes_handled
    (completes_before (completes_inserts fun _ _ _ => creates_enrollment))
    handles_enrollmentErrors

theorem enrollments_acknowledge : Acknowledges moment
    (enrollmentEffects (Seen moment)) (fun update enrollmentId =>
      Unwritten (Seen moment) enrollments enrollmentId
        (enrollmentMerge update))
    enrollmentEndpoints where
  create enrollment := completes_before (completes_createEnrollment enrollment)
  update update _ :=
    completes_before (completes_updateRow (enrollmentChange_merges update))
  delete enrollmentId := completes_before
    (completes_before (completes_deleteRow (removes_enrollment enrollmentId)))

theorem completes_updateStudent (update : StudentUpdate) (studentId : Id) :
    Completes moment
      (Done (onTables ((studentEffects (Seen moment)).update update studentId))
        (studentUnwritten (Seen moment) update studentId))
      (updateStudent update studentId) := by
  refine completes_loads (fun tables => tables.students.find? studentId)
    fun tables seen => ?_
  cases found : tables.students.find? studentId with
  | none => exact completes_throw
  | some student =>
      refine completes_checked fun matches_ => ?_
      refine completes_before (completes_handled (completes_before
        (completes_flushes (fun _ store => store) (fun _ _ => rfl) ?_))
        handles_studentErrors)
      intro before after flushed
      have sameVersion : ∀ version, update.versionId = some version →
          student.versionId = version := by
        intro version given
        simpa [given] using matches_
      have writes : studentChange student update = {} ∧ after = before ∨
          (studentEffects (Seen moment)).update update studentId before
            after :=
        saves_of_flushStudent seen found sameVersion
          (studentChange_apply update student) flushed
      rcases writes with ⟨empty, same⟩ | saved
      · exact .inr ⟨same, tables, student, seen, found,
          studentMerge_unwritten empty⟩
      · exact .inl saved

theorem linkChange_written (userId : Id) : linkChange userId ≠ {} := by
  simp [linkChange]

theorem completes_linkStudentToUser (studentId userId : Id) :
    Completes moment
      (Done (onTables (Saves (Seen moment) studentId
        (fun loaded => loaded.userId = none) (linkedTo (some userId)))) False)
      (linkStudentToUser studentId userId) := by
  refine completes_loads (fun tables => tables.students.find? studentId)
    fun tables seen => ?_
  cases found : tables.students.find? studentId with
  | none => exact completes_throw
  | some student =>
      refine completes_then fun account => ?_
      cases account with
      | none => exact completes_throw
      | some user =>
          refine completes_checked fun unlinked =>
            completes_then fun linked => completes_checked fun _ => ?_
          refine completes_before (completes_handled (completes_before
            (completes_flushes (fun _ store => store) (fun _ _ => rfl) ?_))
            handles_linkErrors)
          intro before after flushed
          have isUnlinked : student.userId = none := by simpa using unlinked
          have writes : linkChange userId = {} ∧ after = before ∨
              Saves (Seen moment) studentId (fun loaded => loaded.userId = none)
                (linkedTo (some userId)) before after :=
            saves_of_flushStudent seen found isUnlinked (fun _ => rfl) flushed
          rcases writes with ⟨empty, _⟩ | saved
          · exact absurd empty (linkChange_written userId)
          · exact .inl saved

theorem students_acknowledge {libraries : Libraries} :
    Acknowledges moment (studentEffects (Seen moment))
      (studentUnwritten (Seen moment)) (studentEndpoints libraries) where
  create _ := completes_before (completes_handled
    (completes_before (completes_inserts fun _ _ _ => creates_student))
    handles_createErrors)
  update update studentId :=
    completes_before (completes_updateStudent update studentId)
  delete studentId := completes_before
    (completes_before (completes_deleteRow (removes_student studentId)))

end Tables

/-! ### Accounts and jobs -/

section Accounts

variable {moment : Time → Tables → Prop} {libraries : Libraries}

theorem completes_saveUser {effect : Tables → Tables → Prop}
    {unwritten : Prop} {user : User} {change : UserChange}
    (writes : ∀ before after old, before.users.find? user.id = some old →
      Edits users user.id (some (change.apply old)) before after →
        effect before after)
    (nothing : change = {} → unwritten) :
    Completes moment (Done (onTables effect) unwritten)
      (tryCatch
        (do
          commitUser user change
          refreshUser user.id)
        handleUserErrors) := by
  refine completes_handled (completes_before (completes_flushes
    (fun me store => store.releaseLocks me) (fun _ _ => rfl) ?_))
    handles_userErrors
  intro before after flushed
  rcases edits_of_flushUser flushed with ⟨empty, same⟩ | ⟨old, there, edits⟩
  · exact .inr ⟨same, nothing empty⟩
  · exact .inl (writes before after old there edits)

theorem completes_updateUser (update : UserUpdate) (userId : Id) :
    Completes moment
      (Done
        (onTables ((userEffects (Seen moment) libraries).update update userId))
        (userUnwritten (Seen moment) libraries update userId))
      (updateUser libraries update userId) := by
  refine completes_loads (fun tables => tables.users.find? userId)
    fun tables seen => ?_
  cases found : tables.users.find? userId with
  | none => exact completes_throw
  | some user =>
      have isId : user.id = userId := Table.key_of_find? found
      refine completes_then fun _ => completes_reads
        (@settles_hashOptional moment libraries (fun _ _ => False)
          update.password)
        fun passwordHash hashes => completes_saveUser ?_ fun empty => ?_
      · intro before after old there edits
        rw [userChange_apply] at edits
        rw [isId] at there edits
        exact ⟨passwordHash, hashes, tables, user, old, seen, found, there,
          edits⟩
      · exact ⟨passwordHash, hashes, tables, user, seen, found,
          userMerge_unwritten empty⟩

theorem completes_updateUserMe {credentials : Option String}
    (update : UserSelfUpdate) {user : User}
    (requester : IsRequester moment libraries credentials user) :
    Completes moment
      (Done (onTables (UpdatesOwn moment libraries credentials update))
        (NothingToWrite moment libraries credentials
          (.updateCurrentUser update)))
      (updateUserMe libraries update user) := by
  refine completes_reads
    (@settles_hashOptional moment libraries (fun _ _ => False) update.password)
    fun passwordHash hashes => completes_saveUser ?_ fun empty => ?_
  · intro before after old there edits
    rw [userChange_apply] at edits
    exact ⟨user, passwordHash, old, requester, hashes, there, edits⟩
  · exact ⟨user, passwordHash, requester, hashes, userMerge_unwritten empty⟩

theorem completes_deleteUser (userId : Id) :
    Completes moment
      (Done (onTables ((userEffects (Seen moment) libraries).delete userId))
        False)
      (deleteUser userId) := by
  refine completes_loads (fun tables => tables.users.find? userId)
    fun loadedTables _ => ?_
  cases found : loadedTables.users.find? userId with
  | none => exact completes_throw
  | some user =>
      have isId : user.id = userId := Table.key_of_find? found
      refine completes_then fun _ => completes_before ?_
      refine completes_handled ?_ (handles_referenced userReferenced)
      refine completes_loads (fun tables =>
        tables.students.rows.find? fun row =>
          decide (row.userId = some user.id)) fun tables seen => ?_
      refine completes_flushes (fun me store => store.releaseLocks me)
        (fun _ _ => rfl) fun before after flushed => .inl ?_
      rw [isId] at flushed
      exact deletes_of_flushDeleteUser seen flushed

theorem users_acknowledge :
    Acknowledges moment (userEffects (Seen moment) libraries)
      (userUnwritten (Seen moment) libraries) (userEndpoints libraries) where
  create payload := nomatch payload
  update update userId := completes_before (completes_updateUser update userId)
  delete userId := completes_before (completes_deleteUser userId)

theorem completes_registerUser (user : UserRegister) :
    Completes moment (Done (onTables (Registers libraries user)) False)
      (registerUser libraries user) := by
  refine completes_reads
    (@settles_hashPassword moment libraries (fun _ _ => False) user.password) ?_
  rintro passwordHash ⟨salt, rfl⟩
  exact completes_handled
    (completes_before (completes_inserts fun _ _ _ => registers_of_insertUser))
    handles_userErrors

theorem completes_exportTranscriptAsync {credentials : Option String}
    (studentId : Id) {user : User}
    (requester : IsRequester moment libraries credentials user) :
    Completes moment
      (Done (Effect moment libraries credentials
        (.exportTranscriptAsync studentId)) False)
      (exportTranscriptAsync studentId user) := by
  refine completes_selects (fun tables => tables.students.find? studentId)
    fun tables seen => ?_
  cases found : tables.students.find? studentId with
  | none => exact completes_throw
  | some student =>
      refine completes_checked fun allowed => ?_
      refine completes_then fun jobId =>
        completes_before (completes_statement ?_)
      intro me choice store value next body
      obtain ⟨queue, enqueued, becomes⟩ := mapped_ok body
      cases becomes
      obtain ⟨now, moment⟩ := seen
      exact .inl ⟨rfl, user, now, tables, student, requester, moment, found,
        by simpa using allowed, enqueues_of_enqueueJob enqueued⟩

end Accounts

/-! ## All endpoints -/

section Requests

variable {moment : Time → Tables → Prop} {libraries : Libraries}
  {settings : Settings}

theorem completes_program (credentials : Option String) (route : Route)
    (writes : demand route ≠ .reads) :
    Completes moment
      (Done (Effect moment libraries credentials route)
        (NothingToWrite moment libraries credentials route))
      (route.program libraries settings credentials) := by
  cases route with
  | healthCheck => exact absurd rfl writes
  | getTranscript studentId => exact absurd rfl writes
  | exportTranscriptAsync studentId =>
      exact completes_reads
        (@settles_requester moment libraries (fun _ _ => False) _ credentials)
        fun user requester => completes_before
          (completes_exportTranscriptAsync studentId requester)
  | getJobStatus jobId => exact absurd rfl writes
  | college route => exact colleges_acknowledge.program credentials route writes
  | course route => exact courses_acknowledge.program credentials route writes
  | courseOffering route =>
      exact courseOfferings_acknowledge.program credentials route writes
  | department route =>
      exact departments_acknowledge.program credentials route writes
  | teacher route => exact teachers_acknowledge.program credentials route writes
  | student route => exact students_acknowledge.program credentials route writes
  | linkStudentUser studentId userId =>
      exact completes_then fun _ =>
        completes_before (completes_linkStudentToUser studentId userId)
  | enrollment route =>
      exact enrollments_acknowledge.program credentials route writes
  | courseSchedule route =>
      exact courseSchedules_acknowledge.program credentials route writes
  | getCurrentUser => exact absurd rfl writes
  | updateCurrentUser update =>
      exact completes_reads (settles_getCurrentUser
        (effects_idle moment fun _ _ => False) fun _ _ _ seen => seen)
        fun user requester =>
          completes_before (completes_updateUserMe update requester)
  | getCurrentStudent => exact absurd rfl writes
  | user route => exact users_acknowledge.program credentials route writes
  | registerUser user =>
      exact completes_then fun _ =>
        completes_before (completes_registerUser user)
  | loginUser userLogin => exact absurd rfl writes

theorem completes_serve (credentials : Option String) (route : Route)
    (writes : demand route ≠ .reads) :
    Completes moment
      (Done (Effect moment libraries credentials route)
        (NothingToWrite moment libraries credentials route))
      (route.serve libraries settings credentials) :=
  completes_before (completes_tryCatch
    (completes_tryCatch (completes_program credentials route writes)
      fun _ => completes_rolledBack)
    fun _ => completes_rolledBack)

end Requests

/-! ## Runs -/

/-- In every run, whatever runs beside the request and however calls end: when
it has answered a success, one of its statements has made the change that the
endpoint is for, unless it is an update that found nothing to write. -/
theorem acknowledged_requests_done (libraries : Libraries)
    (settings : Settings) (moment : Time → Tables → Prop)
    (credentials : Option String) (route : Route)
    (writes : demand route ≠ .reads) (thread : Nat)
    (first last : Config university (Except Exc Unit))
    (serving : first.threads[thread]? =
      some (route.serve libraries settings credentials).run)
    (run : Run (application libraries settings) (moments moment) first last)
    (succeeded : last.threads[thread]? = some (.ret (.ok ()))) :
    ∃ config next label choice,
      Run (application libraries settings) (moments moment) first config ∧
      Transition (application libraries settings) config
        (.act thread label choice) next ∧
      moment choice.now (committed config.store) ∧
      Done (Effect moment libraries credentials route)
        (NothingToWrite moment libraries credentials route)
        (database config.store) (database next.store) ∧
      Run (application libraries settings) (moments moment) next last :=
  run.made serving (completes_serve credentials route writes) succeeded id

/-! ### The first of two updates answers -/

def anytime (_ : Time) (_ : Tables) : Prop := True

def acknowledged : Config university (Except Exc Unit) :=
  bothUpdating.played sampleApplication accept
    (plain [0, 0, 0, 1, 1, 1, 1, 0, 0, 0])

theorem acknowledged_overtaken : ∃ config next label choice,
    Run sampleApplication (moments anytime) bothUpdating config ∧
    Transition sampleApplication config (.act 0 label choice) next ∧
    anytime choice.now (committed config.store) ∧
    Done (Effect anytime sampleLibraries (some "first") nameUpdate)
      (NothingToWrite anytime sampleLibraries (some "first") nameUpdate)
      (database config.store) (database next.store) ∧
    Run sampleApplication (moments anytime) next acknowledged :=
  acknowledged_requests_done sampleLibraries .default anytime (some "first")
    nameUpdate (by decide) 0 bothUpdating acknowledged rfl
    (bothUpdating.played_run sampleApplication accept (moments anytime)
      (fun _ _ _ _ => trivial) _ (by cbv)) (by cbv)

end SystemUni.Routers.Acknowledgement
