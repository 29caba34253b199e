import SystemUni.Accounts.LastAdminGuard
import SystemUni.Crud.Enrollment
import SystemUni.Registrar.ScheduleTimes

/-!
# How the operations respond

With nobody else at work an operation neither waits nor runs into an exception
that the client is not to blame for: what was loaded is still there when it is
written, and what was written is there when it is read again.
-/

set_option autoImplicit false

namespace SystemUni.Crud.Responses

open Interleaving Relational
open SystemUni.Runtime.Errors
open SystemUni.Runtime.External
open SystemUni.Runtime.Statements
open SystemUni.Runtime.Rules
open SystemUni.Models.Rows
open SystemUni.Models.Changes
open SystemUni.Models.Schema
open SystemUni.Security.Auth
open SystemUni.Crud.User
open SystemUni.Crud.Deletion
open SystemUni.Crud.Rows
open SystemUni.Crud.Student
open SystemUni.Schemas.Fields
open SystemUni.Crud.Enrollment
open SystemUni.Crud.Registrar
open SystemUni.Crud.CourseSchedule
open SystemUni.Routers.Main
open SystemUni.Registrar.Deletes
open SystemUni.Registrar.UserDeletes
open SystemUni.Registrar.ScheduleTimes

/-! ## Requests that respond -/

/-- How a request fails: with an error of the client or with a crash, and with
the tables as they were. -/
def Fails (crash : Exc → Prop) (store : Store) (exc : Exc) (later : Store) :
    Prop :=
  (ClientError exc ∨ crash exc) ∧ later.db = store.db

/-- The request ends without waiting. -/
def Responds {α : Type} (allowed : Choice → Prop) (crash : Exc → Prop)
    (me : Nat) (request : Py α) (store : Store) : Prop :=
  Finishes allowed me request (fun _ _ => True) (Fails crash store) store

section Rules

variable {allowed : Choice → Prop} [Answered allowed] {crash : Exc → Prop}
  {me : Nat} {α β : Type} {store : Store}

theorem fails_refused {exc : Exc} {later : Store}
    (refused : RefusedWrite store exc later) : Fails crash store exc later :=
  ⟨.inl refused.1, refused.2⟩

theorem client_httpException {statusCode : Nat} {detail : String}
    (inRange : 400 ≤ statusCode ∧ statusCode < 500) :
    ClientError (.httpException statusCode detail) := inRange

theorem client_dataError {text : String} :
    ClientError (.sql .dataError text) :=
  (by decide : 400 ≤ 422 ∧ 422 < 500)

theorem finishes_answered {request : Py α} {post : α → Store → Prop}
    {fail : Exc → Store → Prop}
    (finishes : Finishes callSucceeds me request post fail store) :
    Finishes allowed me request post fail store :=
  alone_weaken request.run store Answered.done finishes

omit [Answered allowed] in
theorem responds_throw {exc : Exc} (client : ClientError exc) :
    Responds allowed crash me (throw exc : Py α) store :=
  finishes_throw exc (fails_refused ⟨client, rfl⟩)

omit [Answered allowed] in
theorem responds_map {request : Py α} {rest : α → Py β}
    (responds : Responds allowed crash me request store)
    (returns : ∀ value, ∃ answer, rest value = pure answer) :
    Responds allowed crash me (request >>= rest) store := by
  refine finishes_bind (finishes_mono responds ?_ fun _ _ failed => failed)
  intro value later _
  obtain ⟨answer, isPure⟩ := returns value
  rw [isPure]
  exact finishes_pure answer trivial

omit [Answered allowed] in
theorem responds_bind {request : Py α} {rest : α → Py β}
    (reads : Finishes allowed me request (fun _ later => later = store)
      (RefusedWrite store) store)
    (responds : ∀ value, Responds allowed crash me (rest value) store) :
    Responds allowed crash me (request >>= rest) store := by
  refine finishes_bind (finishes_mono reads ?_
    fun _ _ refused => fails_refused refused)
  rintro value later rfl
  exact responds value

omit [Answered allowed] in
theorem responds_checked {refused : Prop} [Decidable refused] {exc : Exc}
    {rest : Py α} (client : ClientError exc)
    (responds : Responds allowed crash me rest store) :
    Responds allowed crash me (do
      if refused then throw exc
      rest) store := by
  split
  · exact finishes_bind (finishes_throw exc (fails_refused ⟨client, rfl⟩))
  · exact responds

theorem responds_select {fits : Bool} {read : Store → α} :
    Responds allowed crash me (select fits read) store :=
  finishes_select (fun _ => trivial) fun _ => fails_refused ⟨by decide, rfl⟩

theorem responds_selected {fits : Bool} {read : Store → α} {rest : α → Py β}
    (responds : fits = true →
      Responds allowed crash me (rest (read store)) store) :
    Responds allowed crash me (select fits read >>= rest) store :=
  finishes_bind (finishes_select responds
    fun _ => fails_refused ⟨by decide, rfl⟩)

theorem finishes_getCurrentUser {libraries : Libraries}
    {credentials : Option String} :
    Finishes allowed me (Security.Auth.getCurrentUser libraries credentials)
      (fun user later => later = store ∧
        store.db.tables.users.find? user.id = some user)
      (RefusedWrite store) store := by
  cases credentials with
  | none => exact finishes_throw _ ⟨by decide, rfl⟩
  | some token =>
      refine finishes_bind (finishes_command fun choice _ => ?_)
      change Finishes allowed me (checkToken libraries choice.now token) _ _
        store
      unfold checkToken
      split
      · exact finishes_throw _ ⟨by decide, rfl⟩
      · rename_i userId tokenVersion decoded
        refine finishes_bind (finishes_query ?_)
        cases found : store.db.tables.users.find? userId with
        | none => exact finishes_throw _ ⟨by decide, rfl⟩
        | some user =>
            have isId : user.id = userId := Table.key_of_find? found
            by_cases current : (user.tokenVersion : Int) = tokenVersion
            · simp only [admitUser, ne_eq, current, not_true, if_false]
              exact finishes_pure _ ⟨rfl, isId ▸ found⟩
            · simp only [admitUser, ne_eq, current, not_false_eq_true, if_true]
              exact finishes_throw _ ⟨by decide, rfl⟩

theorem finishes_requireRoles {libraries : Libraries}
    {allowedRoles : List UserRole} {credentials : Option String} :
    Finishes allowed me (requireRoles libraries allowedRoles credentials)
      (fun _ later => later = store) (RefusedWrite store) store := by
  refine finishes_bind (finishes_mono finishes_getCurrentUser ?_
    fun _ _ refused => refused)
  rintro user later ⟨rfl, _⟩
  split
  · exact finishes_throw _ ⟨by decide, rfl⟩
  · exact finishes_pure _ rfl

/-! ### Rows -/

variable {ρ δ : Type} {key : ρ → Id} {access : TableAccess key}
  {errors : WriteErrors} {notFound : Exc}

theorem responds_readRow (missing : ClientError notFound) {rowId : Id} :
    Responds allowed crash me (readRow access notFound rowId) store := by
  refine responds_selected fun _ => ?_
  cases (access.get store.db.tables).find? rowId with
  | none => exact responds_throw missing
  | some row => exact finishes_pure row trivial

theorem responds_createRow
    (laws : ∀ rows tables, access.get (access.set rows tables) = rows)
    (clients : ClientError errors.conflict ∧ ClientError errors.invalid)
    {fits : ρ → Bool} {row : Choice → ρ} :
    Responds allowed crash me (createRow access fits errors row) store :=
  finishes_answered (finishes_mono (finishes_createRow laws clients)
    (fun _ _ _ => trivial) fun _ _ refused => fails_refused refused)

theorem responds_updateRow
    (laws : ∀ rows tables, access.get (access.set rows tables) = rows)
    (clients : ClientError errors.conflict ∧ ClientError errors.invalid)
    (missing : ClientError notFound) {change : ρ → RowChange key}
    {rowId : Id} :
    Responds allowed crash me
      (updateRow access notFound errors change (fun _ => .ok ()) rowId)
      store := by
  refine finishes_answered (finishes_mono
    (finishes_updateRow laws clients missing) (fun _ _ _ => trivial) ?_)
  rintro exc later (⟨refused, _⟩ | ⟨_, row, _, raised⟩)
  · exact fails_refused refused
  · cases raised

/-- A dependant that was loaded is there when the flush comes to it. -/
theorem detachRequired_refused {rows : List δ} {loads present : δ → Bool}
    {kind : SqlError} (all : ∀ row ∈ rows, present row = true)
    (refused : detachRequired (rows.filter loads) present = .error kind) :
    kind = .integrityError := by
  unfold detachRequired at refused
  split at refused
  · cases refused
  split at refused
  · exact (Except.error.inj refused).symm
  · rename_i loaded absent
    obtain ⟨row, member⟩ := List.exists_mem_of_ne_nil _
      (mt List.isEmpty_iff.mpr loaded)
    have found := all row (List.mem_of_mem_filter member)
    exact absurd (List.any_eq_true.mpr ⟨row, member, found⟩) absent

/-- The flush that deletes a loaded row is refused for its dependants only. -/
structure Detaches (deletion : RowDeletion ρ δ) : Prop where
  missing : ClientError deletion.notFound
  conflict : ClientError deletion.referenced
  refused : ∀ row tables kind, deletion.load tables = some row →
    deletion.flush row (deletion.dependents row tables) tables =
      .error kind → kind = .integrityError

theorem responds_deleteRow {deletion : RowDeletion ρ δ}
    (detaches : Detaches deletion) :
    Responds allowed crash me (deleteRow deletion) store := by
  refine finishes_bind (finishes_query ?_)
  cases found : deletion.load store.db.tables with
  | none => exact responds_throw detaches.missing
  | some row =>
      refine finishes_bind (finishes_tryCatch (finishes_bind (finishes_query
        (finishes_transaction ?_ ?_))))
      · intro choice done next _ body
        exact finishes_pure row trivial
      · intro choice exc _ body
        have integrity : exc.isIntegrityError = true := by
          rcases commit_refused body with
            ⟨text, rfl⟩ | ⟨kind, flushed, rfl⟩
          · rfl
          · cases detaches.refused row _ kind found flushed
            rfl
        simp only [handleReferenced, integrity, if_true]
        exact finishes_bind (finishes_command fun _ _ =>
          finishes_throw _ (fails_refused ⟨detaches.conflict, rfl⟩))

end Rules

/-! ## What the registrar keeps -/

section Registrar

variable {ρ : Type} {rows : List ρ} {loads present : ρ → Bool}
  {kind : SqlError} {rest : Except SqlError Tables}

theorem detaches_first
    (refused : (do
      detachRequired (rows.filter loads) present
      rest) = .error kind)
    (all : ∀ row ∈ rows, present row = true)
    (others : rest = .error kind → kind = .integrityError) :
    kind = .integrityError := by
  cases detached : detachRequired (rows.filter loads) present with
  | error other =>
      rw [detached] at refused
      cases refused
      exact detachRequired_refused all detached
  | ok done =>
      rw [detached] at refused
      exact others refused

theorem detaches_college (collegeId : Id) :
    Detaches (deleteCollegeRow collegeId) where
  missing := client_httpException (by decide)
  conflict := client_httpException (by decide)
  refused _ _ _ _ refused :=
    detaches_first refused find?_isSome_of_mem nofun

theorem detaches_course (courseId : Id) :
    Detaches (deleteCourseRow courseId) where
  missing := client_httpException (by decide)
  conflict := client_httpException (by decide)
  refused _ _ _ _ refused :=
    detaches_first refused find?_isSome_of_mem nofun

theorem detaches_teacher (teacherId : Id) :
    Detaches (deleteTeacherRow teacherId) where
  missing := client_httpException (by decide)
  conflict := client_httpException (by decide)
  refused _ _ _ _ refused :=
    detaches_first refused find?_isSome_of_mem nofun

theorem detaches_courseOffering (courseOfferingId : Id) :
    Detaches (deleteCourseOfferingRow courseOfferingId) where
  missing := client_httpException (by decide)
  conflict := client_httpException (by decide)
  refused _ _ _ _ refused :=
    detaches_first refused find?_isSome_of_mem fun later =>
      detaches_first later find?_isSome_of_mem nofun

/-- A student that was loaded still has its version. -/
theorem sameVersion_of_mem {tables : Tables} : ∀ row ∈ tables.students.rows,
    (tables.students.find? row.id).any
      (fun student => decide (student.versionId = row.versionId)) = true := by
  intro row member
  rw [Table.find?_of_mem member]
  simp

theorem detaches_department (departmentId : Id) :
    Detaches (deleteDepartmentRow departmentId) where
  missing := client_httpException (by decide)
  conflict := client_httpException (by decide)
  refused department tables kind _ refused := by
    refine detaches_first refused find?_isSome_of_mem fun later =>
      detaches_first later sameVersion_of_mem ?_
    intro nullified
    have loaded : (coursesOf department.id tables).all
        (fun row => (tables.courses.find? row.id).isSome) = true :=
      List.all_eq_true.mpr fun row member =>
        find?_isSome_of_mem row (List.mem_of_mem_filter member)
    simp only [detachCourses, deleteDepartmentRow, loaded, if_true] at nullified
    cases nullified

theorem detaches_courseSchedule (courseScheduleId : Id) :
    Detaches (deleteCourseScheduleRow courseScheduleId) where
  missing := client_httpException (by decide)
  conflict := client_httpException (by decide)
  refused := nofun

theorem detaches_enrollment (enrollmentId : Id) :
    Detaches (deleteEnrollmentRow enrollmentId) where
  missing := client_httpException (by decide)
  conflict := client_httpException (by decide)
  refused := nofun

theorem detaches_student (studentId : Id) :
    Detaches (deleteStudentRow studentId) where
  missing := client_httpException (by decide)
  conflict := client_httpException (by decide)
  refused student tables kind found refused := by
    refine detaches_first refused find?_isSome_of_mem ?_
    intro stale
    have isId : student.id = studentId := Table.key_of_find? found
    have current : tables.students.find? student.id = some student :=
      isId ▸ found
    simp [current] at stale

end Registrar

/-! ## Students and enrollments -/

section Students

variable {allowed : Choice → Prop} [Answered allowed] {crash : Exc → Prop}
  {me : Nat} {store : Store} {α β : Type}

omit [Answered allowed] in
theorem responds_reraise {exc : Exc} (client : ClientError exc) :
    Responds allowed crash me
      (do
        rollback
        throw exc : Py α) store :=
  finishes_bind (finishes_command fun _ _ =>
    finishes_throw _ (fails_refused ⟨client, rfl⟩))

theorem responds_inserts {label : Label}
    {insert : Choice → Tables → Except SqlError Tables} {answer : Choice → α}
    {refresh : α → Py β} {handler : Exc → Py β}
    (known : ∀ choice kind, insert choice store.db.tables = .error kind →
      kind = .integrityError ∨ kind = .dataError)
    (handles : ∀ text,
      Responds allowed crash me (handler (.sql .integrityError text)) store ∧
        Responds allowed crash me (handler (.sql .dataError text)) store)
    (refreshes : ∀ choice db, insert choice store.db.tables = .ok db.tables →
      Finishes allowed me (refresh (answer choice)) (fun _ _ => True)
        (fun _ _ => False) (store.setTables db)) :
    Responds allowed crash me
      (tryCatch
        (do
          let inserted ← transaction label fun choice store =>
            (store.commit (insert choice)).map fun done =>
              (answer choice, done.2)
          refresh inserted)
        handler) store := by
  refine finishes_tryCatch (finishes_bind (finishes_transaction ?_ ?_))
  · intro choice value next _ body
    obtain ⟨done, committed, becomes⟩ := mapped_ok body
    cases becomes
    obtain ⟨db, inserted, becomes⟩ := Store.commit_ok committed
    rw [becomes]
    exact finishes_mono (refreshes choice db inserted) (fun _ _ _ => trivial)
      fun _ _ absurd => absurd.elim
  · intro choice exc _ body
    cases committed : store.commit (insert choice) with
    | ok done =>
        rw [committed] at body
        cases body
    | error refused =>
        rw [committed] at body
        cases body
        rcases commit_refused committed with
          ⟨text, rfl⟩ | ⟨kind, flushed, rfl⟩
        · exact (handles text).1
        · rcases known choice kind flushed with rfl | rfl
          · exact (handles _).1
          · exact (handles _).2

theorem finishes_refreshStudent {studentId : Id} {student : Student}
    (found : store.db.tables.students.find? studentId = some student) :
    Finishes allowed me (refreshStudent studentId)
      (fun _ later => later = store) (fun _ _ => False) store := by
  refine finishes_bind (finishes_query ?_)
  rw [found]
  exact finishes_pure _ rfl

theorem finishes_refreshUser {userId : Id} {user : User}
    (found : store.db.tables.users.find? userId = some user) :
    Finishes allowed me (refreshUser userId)
      (fun _ later => later = store) (fun _ _ => False) store := by
  refine finishes_bind (finishes_query ?_)
  rw [found]
  exact finishes_pure _ rfl

theorem insertStudent_finds {row : Student} {tables after : Tables}
    (inserted : insertStudent row tables = .ok after) :
    after.students.find? row.id = some row := by
  obtain ⟨fresh, rfl⟩ := insertStudent_ok inserted
  rw [Table.find?_insert, if_pos rfl]

theorem responds_createStudent (student : StudentCreate) :
    Responds allowed crash me (createStudent student) store := by
  refine responds_inserts ?_ ?_ ?_
  · intro choice kind refused
    unfold insertStudent at refused
    split at refused
    · exact .inr (Except.error.inj refused).symm
    split at refused
    · cases refused
    · exact .inl (Except.error.inj refused).symm
  · intro text
    exact ⟨responds_reraise (by decide), responds_reraise (by decide)⟩
  · intro choice db inserted
    exact finishes_mono
      (finishes_refreshStudent (insertStudent_finds inserted))
      (fun _ _ _ => trivial) fun _ _ absurd => absurd

theorem responds_saves {student : Student} {change : StudentChange}
    {carried : Option Nat} {refresh : Py α} {handler : Exc → Py α}
    (found : store.db.tables.students.find? student.id = some student)
    (handles : ∀ text,
      Responds allowed crash me (handler (.sql .integrityError text)) store ∧
        Responds allowed crash me (handler (.sql .dataError text)) store)
    (refreshes : ∀ later written,
      later.db.tables.students.find? student.id = some written →
      later.db.tables.users = store.db.tables.users →
      Finishes allowed me refresh (fun _ _ => True) (fun _ _ => False)
        later) :
    Responds allowed crash me
      (tryCatch
        (do
          commitStudent student change carried
          refresh)
        handler) store := by
  refine finishes_tryCatch (finishes_bind (finishes_transaction ?_ ?_))
  · intro choice done next _ body
    obtain ⟨db, flushed, rfl⟩ := Store.commit_ok body
    have written : ∃ row, db.tables.students.find? student.id = some row ∧
        db.tables.users = store.db.tables.users := by
      rcases flushStudent_ok flushed with
        ⟨_, isTables⟩ | ⟨_, row, isRow, _, isTables⟩
      · rw [isTables]
        exact ⟨student, found, rfl⟩
      · rw [isTables]
        refine ⟨change.apply student.versionId row, ?_, rfl⟩
        rw [Table.find?_updateWhere, isRow]
        have isId : row.id = student.id := Table.key_of_find? isRow
        simp [isId]
    obtain ⟨row, isRow, sameUsers⟩ := written
    exact finishes_mono (refreshes (store.setTables db) row isRow sameUsers)
      (fun _ _ _ => trivial) fun _ _ absurd => absurd.elim
  · intro choice exc _ body
    rcases commit_refused body with ⟨text, rfl⟩ | ⟨kind, flushed, rfl⟩
    · exact (handles text).1
    · unfold flushStudent at flushed
      split at flushed
      · cases flushed
      split at flushed
      · cases flushed
        exact (handles _).2
      split at flushed
      · cases flushed
      · rename_i stale
        simp [found] at stale

omit [Answered allowed] in
theorem responds_invalidating {request : Py α} {studentId : α → Id}
    {mark : WriteMark} {answer : α → β}
    (responds : Responds allowed crash me request store) :
    Responds allowed crash me
      (do
        let value ← request
        invalidateStudentCache (studentId value) mark
        return answer value) store := by
  refine finishes_bind (finishes_mono responds ?_ fun _ _ failed => failed)
  intro value later _
  exact finishes_bind (finishes_command fun _ _ => finishes_pure _ trivial)

theorem responds_updateStudent (studentUpdate : StudentUpdate)
    (studentId : Id) :
    Responds allowed crash me (updateStudent studentUpdate studentId)
      store := by
  refine finishes_bind (finishes_query ?_)
  cases found : store.db.tables.students.find? studentId with
  | none => exact responds_throw (by decide)
  | some student =>
      have isId : student.id = studentId := Table.key_of_find? found
      refine responds_checked (by decide) (responds_invalidating
        (responds_saves (isId ▸ found) ?_ ?_))
      · intro text
        exact ⟨responds_reraise (by decide), responds_reraise (by decide)⟩
      · intro later written isWritten _
        exact finishes_mono (finishes_refreshStudent isWritten)
          (fun _ _ _ => trivial) fun _ _ absurd => absurd

theorem responds_linkStudentToUser (studentId userId : Id) :
    Responds allowed crash me (linkStudentToUser studentId userId) store := by
  refine finishes_bind (finishes_query ?_)
  cases found : store.db.tables.students.find? studentId with
  | none => exact responds_throw (by decide)
  | some student =>
      have isId : student.id = studentId := Table.key_of_find? found
      refine finishes_bind (finishes_query ?_)
      cases account : store.db.tables.users.find? userId with
      | none => exact responds_throw (by decide)
      | some user =>
          have isUser : user.id = userId := Table.key_of_find? account
          refine responds_checked (by decide) (finishes_bind
            (finishes_query (responds_checked (by decide)
              (responds_invalidating (responds_saves (isId ▸ found) ?_ ?_)))))
          · intro text
            exact ⟨responds_reraise (by decide),
              responds_throw client_dataError⟩
          · intro later written isWritten sameUsers
            refine finishes_bind (finishes_mono
              (finishes_refreshStudent isWritten) ?_ fun _ _ absurd => absurd)
            rintro updated after rfl
            have stays : after.db.tables.users.find? user.id = some user := by
              rw [sameUsers, isUser]
              exact account
            refine finishes_bind (finishes_mono (finishes_refreshUser stays) ?_
              fun _ _ absurd => absurd)
            rintro refreshed _ rfl
            exact finishes_pure _ trivial

theorem responds_readStudent (libraries : Libraries) (studentId : Id)
    (user : User)
    (crashes : ∀ row, store.db.tables.students.find? studentId = some row →
      studentResponse libraries.emailStr row = false →
      crash validationError) :
    Responds allowed crash me (readStudent libraries studentId user)
      store := by
  refine finishes_bind (finishes_command fun choice _ =>
    responds_checked (by decide) ?_)
  refine responds_bind ?_ fun cached => ?_
  · unfold lookUpStudent
    split
    · exact finishes_command fun _ _ => rfl
    · exact finishes_pure none rfl
  · cases cached with
    | some response => exact finishes_pure response trivial
    | none =>
        refine responds_selected fun _ => ?_
        cases seen : (store.db.tables.students.find? studentId).filter
            (maySee user) with
        | none => exact responds_throw (by decide)
        | some student =>
            simp only [modelValidate_bind]
            split
            · split
              · exact finishes_bind (finishes_command fun _ _ =>
                  finishes_pure _ trivial)
              · exact finishes_pure _ trivial
            · rename_i invalid
              have found := (Option.filter_eq_some_iff.mp seen).1
              exact finishes_throw _ ⟨.inr (crashes student found
                (Bool.eq_false_iff.mpr invalid)), rfl⟩

theorem insertEnrollment_finds {row : Enrollment} {tables after : Tables}
    (inserted : insertEnrollment row tables = .ok after) :
    after.enrollments.find? row.id = some row := by
  obtain ⟨fresh, rfl⟩ := insertEnrollment_ok inserted
  rw [Table.find?_insert, if_pos rfl]

theorem finishes_refreshEnrollment {enrollmentId : Id} {row : Enrollment}
    (found : store.db.tables.enrollments.find? enrollmentId = some row) :
    Finishes allowed me (refreshEnrollment enrollmentId) (fun _ _ => True)
      (fun _ _ => False) store := by
  refine finishes_bind (finishes_query ?_)
  rw [found]
  exact finishes_pure _ trivial

theorem responds_createEnrollment (enrollment : EnrollmentCreate) :
    Responds allowed crash me (createEnrollment enrollment) store := by
  refine responds_selected fun _ => responds_checked (by decide) ?_
  refine responds_selected fun _ => responds_checked (by decide) ?_
  refine responds_selected fun _ => responds_checked (by decide) ?_
  refine responds_selected fun _ => responds_checked (by decide) ?_
  refine responds_inserts ?_ ?_ ?_
  · intro choice kind refused
    unfold insertEnrollment at refused
    split at refused
    · exact .inr (Except.error.inj refused).symm
    split at refused
    · cases refused
    · exact .inl (Except.error.inj refused).symm
  · intro text
    exact ⟨responds_reraise (by decide), responds_reraise (by decide)⟩
  · intro choice db inserted
    exact finishes_refreshEnrollment (insertEnrollment_finds inserted)

end Students

/-! ## Accounts -/

section Accounts

variable {allowed : Choice → Prop} [Answered allowed] {crash : Exc → Prop}
  {me : Nat} {store : Store} {libraries : Libraries}

theorem insertUser_finds {user : User} {tables after : Tables}
    (inserted : insertUser user tables = .ok after) :
    after.users.find? user.id = some user := by
  obtain ⟨fresh, rfl⟩ := insertUser_ok inserted
  rw [Table.find?_insert, if_pos rfl]

theorem responds_registerUser (payload : UserRegister) :
    Responds allowed crash me (registerUser libraries payload) store := by
  refine finishes_bind (finishes_bind (finishes_command fun choice _ =>
    finishes_pure _ (responds_inserts ?_ ?_ ?_)))
  · intro choice kind refused
    unfold insertUser at refused
    split at refused
    · exact .inr (Except.error.inj refused).symm
    split at refused
    · cases refused
    · exact .inl (Except.error.inj refused).symm
  · intro text
    exact ⟨responds_reraise (by decide), responds_reraise (by decide)⟩
  · intro choice db inserted
    exact finishes_mono (finishes_refreshUser (insertUser_finds inserted))
      (fun _ _ _ => trivial) fun _ _ absurd => absurd

theorem responds_saveUser {user : User} {change : UserChange}
    (mine : LocksMine me store)
    (found : store.db.tables.users.find? user.id = some user) :
    Responds allowed crash me
      (tryCatch
        (do
          commitUser user change
          refreshUser user.id)
        handleUserErrors) store := by
  refine finishes_tryCatch (finishes_bind (finishes_lockingTransaction
    (by rw [mine.free, Bool.or_true]) ?_ ?_))
  · intro choice done next _ body
    obtain ⟨db, flushed, rfl⟩ := Store.commit_ok body
    have written : ∃ row, db.tables.users.find? user.id = some row := by
      rcases flushUser_ok flushed with
        ⟨_, isTables⟩ | ⟨_, row, isRow, isTables⟩
      · rw [isTables]
        exact ⟨user, found⟩
      · rw [isTables]
        refine ⟨change.apply row, ?_⟩
        rw [Table.find?_updateWhere, isRow]
        have isId : row.id = user.id := Table.key_of_find? isRow
        simp [isId]
    obtain ⟨row, isRow⟩ := written
    exact finishes_mono (finishes_refreshUser isRow) (fun _ _ _ => trivial)
      fun _ _ absurd => absurd.elim
  · intro choice exc _ body
    rcases commit_refused body with ⟨text, rfl⟩ | ⟨kind, flushed, rfl⟩
    · exact responds_reraise (by decide)
    · unfold flushUser at flushed
      split at flushed
      · cases flushed
      split at flushed
      · cases flushed
        exact responds_reraise (by decide)
      split at flushed
      · rename_i absent
        have present : (store.db.tables.users.find? user.id).isNone = true :=
          absent
        rw [found] at present
        cases present
      · cases flushed

omit [Answered allowed] in
/-- Nothing but locks has changed before the request. -/
theorem Responds.after {α : Type} {request : Py α} {before : Store}
    (responds : Responds allowed crash me request store)
    (same : store.db = before.db) :
    Finishes allowed me request (fun _ _ => True) (Fails crash before)
      store :=
  finishes_mono responds (fun _ _ _ => trivial)
    fun _ _ failed => ⟨failed.1, failed.2.trans same⟩

theorem responds_updateUser (mine : LocksMine me store)
    (userUpdate : UserUpdate) (userId : Id) :
    Responds allowed crash me (updateUser libraries userUpdate userId)
      store := by
  refine finishes_bind (finishes_query ?_)
  cases found : store.db.tables.users.find? userId with
  | none => exact responds_throw (by decide)
  | some user =>
      have isId : user.id = userId := Table.key_of_find? found
      refine finishes_bind (finishes_mono
        (finishes_answered (finishes_ensureAdminRemains mine)) ?_ ?_)
      · rintro _ guarded ⟨_, locks⟩
        refine finishes_bind (finishes_mono (finishes_answered
          Accounts.LastAdminGuard.finishes_hashOptional) ?_ fun _ _ failed => failed)
        rintro passwordHash _ rfl
        refine (responds_saveUser locks.mine ?_).after locks.db
        rw [locks.db, isId]
        exact found
      · rintro exc guarded ⟨rfl, _, locks⟩
        exact fails_refused ⟨by decide, locks.db⟩

theorem responds_updateUserMe (mine : LocksMine me store)
    (userUpdate : UserSelfUpdate) {currentUser : User}
    (found : store.db.tables.users.find? currentUser.id = some currentUser) :
    Responds allowed crash me (updateUserMe libraries userUpdate currentUser)
      store := by
  refine finishes_bind (finishes_mono (finishes_answered
    Accounts.LastAdminGuard.finishes_hashOptional) ?_ fun _ _ failed => failed)
  rintro passwordHash _ rfl
  exact responds_saveUser mine found

/-- The linked student that was loaded still has its version. -/
theorem flushDeleteUser_passes {tables : Tables} {linked : Student → Bool}
    {userId : Id} {kind : SqlError} :
    flushDeleteUser userId (tables.students.rows.find? linked) tables ≠
      .error kind := by
  intro refused
  cases found : tables.students.rows.find? linked with
  | none =>
      rw [found] at refused
      cases refused
  | some student =>
      have current :=
        sameVersion_of_mem student (List.mem_of_find?_eq_some found)
      rw [found] at refused
      simp only [flushDeleteUser, unlinkStudent, current, if_true] at refused
      cases refused

theorem responds_deleteUser (mine : LocksMine me store) (userId : Id) :
    Responds allowed crash me (deleteUser userId) store := by
  refine finishes_bind (finishes_query ?_)
  cases found : store.db.tables.users.find? userId with
  | none => exact responds_throw (by decide)
  | some user =>
      refine finishes_bind (finishes_mono
        (finishes_answered (finishes_ensureAdminRemains mine)) ?_ ?_)
      · rintro _ guarded ⟨_, locks⟩
        refine finishes_bind (finishes_tryCatch (finishes_bind (finishes_query
          (finishes_lockingTransaction (locks.mine.free user.id) ?_ ?_))))
        · intro choice done next _ body
          exact finishes_pure userDeleted trivial
        · intro choice exc _ body
          have integrity : exc.isIntegrityError = true := by
            rcases commit_refused body with
              ⟨text, rfl⟩ | ⟨kind, flushed, rfl⟩
            · rfl
            · exact absurd flushed flushDeleteUser_passes
          simp only [integrity, if_true]
          exact finishes_bind (finishes_command fun _ _ =>
            finishes_throw _ (fails_refused ⟨by decide, locks.db⟩))
      · rintro exc guarded ⟨rfl, _, locks⟩
        exact fails_refused ⟨by decide, locks.db⟩

end Accounts

end SystemUni.Crud.Responses
