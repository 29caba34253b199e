import SystemUni.Crud.Deletion
import SystemUni.Schemas.Fields

/-!
# Students

`app/crud/student.py` with its Redis cache.  A write of a student row carries
the version that was read; the database applies it to no other version.
-/

set_option autoImplicit false

namespace SystemUni.Crud.Student

open Relational
open SystemUni.Runtime.Errors
open SystemUni.Runtime.External
open SystemUni.Runtime.Statements
open SystemUni.Models.Rows
open SystemUni.Models.Changes
open SystemUni.Models.Schema
open SystemUni.Crud.User
open SystemUni.Crud.Deletion
open SystemUni.Schemas.Fields

structure StudentCreate where
  name : String
  departmentId : Id
  age : Option Int := none
  email : String

structure StudentUpdate where
  name : Option String := none
  departmentId : Option Id := none
  age : Option Int := none
  email : Option String := none
  versionId : Option Nat := none

/-! ## Errors -/

def studentNotFound : Exc := .httpException 404 "Student not found"

def forbidden : Exc := .httpException 403 "forbidden"

def versionMismatch : Exc :=
  .httpException 409
    "Student record has been modified by another transaction (version mismatch)"

def studentModified : Exc :=
  .httpException 409 "Student record has been modified by another transaction"

def studentExists : Exc :=
  .httpException 409 "Student email or constraint already exists"

def studentConflict : Exc :=
  .httpException 409 "Student email or constraint conflict"

def invalidStudent : Exc := .httpException 422 "Invalid student data provided"

def studentReferenced : Exc :=
  .httpException 409
    "Cannot delete student due to existing dependent records (e.g. enrollments)"

def studentLinked : Exc :=
  .httpException 409 "student already linked to user"

def userLinked : Exc := .httpException 409 "user already linked to student"

def linkingFailed : Exc :=
  .httpException 409
    "Linking constraint failed: student or user already linked"

/-- What `model_validate` raises; no handler of the application knows it. -/
def validationError : Exc := .other "ValidationError" "StudentResponseSchema"

/-- The `except` clauses of `create_student`. -/
def handleCreateErrors {α : Type} (exc : Exc) : Py α :=
  match exc with
  | .sql .integrityError _ => do
      rollback
      throw studentExists
  | .sql .dataError _ => do
      rollback
      throw invalidStudent
  | exc => throw exc

theorem handles_createErrors {α : Type} :
    Handles (handleCreateErrors : Exc → Py α) := by
  intro exc
  unfold handleCreateErrors
  split
  · exact .inr ⟨_, _, _, rfl, by simp, rfl⟩
  · exact .inr ⟨_, _, _, rfl, by simp, rfl⟩
  · exact .inl rfl

/-- The `except` clauses of `update_student`. -/
def handleStudentErrors {α : Type} (exc : Exc) : Py α :=
  match exc with
  | .sql .staleDataError _ => do
      rollback
      throw studentModified
  | .sql .integrityError _ => do
      rollback
      throw studentConflict
  | .sql .dataError _ => do
      rollback
      throw invalidStudent
  | exc => throw exc

theorem handles_studentErrors {α : Type} :
    Handles (handleStudentErrors : Exc → Py α) := by
  intro exc
  unfold handleStudentErrors
  split
  · exact .inr ⟨_, _, _, rfl, by simp, rfl⟩
  · exact .inr ⟨_, _, _, rfl, by simp, rfl⟩
  · exact .inr ⟨_, _, _, rfl, by simp, rfl⟩
  · exact .inl rfl

/-- The `except` clauses of `link_student_to_user`. -/
def handleLinkErrors {α : Type} (exc : Exc) : Py α :=
  match exc with
  | .sql .staleDataError _ => do
      rollback
      throw studentModified
  | .sql .integrityError _ => do
      rollback
      throw linkingFailed
  | exc => throw exc

theorem handles_linkErrors {α : Type} :
    Handles (handleLinkErrors : Exc → Py α) := by
  intro exc
  unfold handleLinkErrors
  split
  · exact .inr ⟨_, _, _, rfl, by simp, rfl⟩
  · exact .inr ⟨_, _, _, rfl, by simp, rfl⟩
  · exact .inl rfl

/-! ## Flushes -/

def studentFits (row : Student) : Bool :=
  fitsVarchar 150 row.name && fitsVarchar 150 row.email &&
    fitsInteger row.departmentId

def insertStudent (row : Student) (tables : Tables) :
    Except SqlError Tables :=
  if !studentFits row then .error .dataError
  else if fresh : tables.students.find? row.id = none then
    .ok { tables with students := tables.students.insert row fresh }
  else .error .integrityError

theorem insertStudent_ok {row : Student} {tables after : Tables}
    (inserted : insertStudent row tables = .ok after) :
    ∃ fresh : tables.students.find? row.id = none,
      after = { tables with
        students := tables.students.insert row fresh } := by
  unfold insertStudent at inserted
  split at inserted
  · cases inserted
  split at inserted
  · rename_i fresh
    cases inserted
    exact ⟨fresh, rfl⟩
  · cases inserted

/-- `UPDATE student SET … WHERE id AND version_id`, if any column changed. -/
def flushStudent (student : Student) (change : StudentChange)
    (tables : Tables) : Except SqlError Tables :=
  if change = {} then .ok tables
  else if !change.fits then .error .dataError
  else if (tables.students.find? student.id).any
      (fun row => decide (row.versionId = student.versionId)) then
    .ok { tables with
      students := tables.students.updateWhere
        (fun row => decide (row.id = student.id))
        (change.apply student.versionId) (StudentChange.apply_id _ _) }
  else .error .staleDataError

theorem flushStudent_ok {student : Student} {change : StudentChange}
    {tables after : Tables}
    (flushed : flushStudent student change tables = .ok after) :
    change = {} ∧ after = tables ∨
      change ≠ {} ∧ ∃ row, tables.students.find? student.id = some row ∧
        row.versionId = student.versionId ∧
        after = { tables with
          students := tables.students.updateWhere
            (fun row => decide (row.id = student.id))
            (change.apply student.versionId)
            (StudentChange.apply_id _ _) } := by
  unfold flushStudent at flushed
  split at flushed
  · rename_i empty
    cases flushed
    exact .inl ⟨empty, rfl⟩
  · rename_i dirtied
    split at flushed
    · cases flushed
    split at flushed
    · rename_i current
      obtain ⟨row, found, same⟩ := (Option.any_eq_true _ _).mp current
      cases flushed
      exact .inr ⟨dirtied, row, found, by simpa using same, rfl⟩
    · cases flushed

/-- `DELETE FROM student WHERE id AND version_id`, after the enrollments. -/
def flushDeleteStudent (student : Student) (enrollments : List Enrollment)
    (tables : Tables) : Except SqlError Tables := do
  detachRequired enrollments fun row =>
    (tables.enrollments.find? row.id).isSome
  if (tables.students.find? student.id).any
      (fun row => decide (row.versionId = student.versionId)) then
    .ok { tables with students := tables.students.erase student.id }
  else .error .staleDataError

theorem flushDeleteStudent_ok {student : Student}
    {enrollments : List Enrollment} {tables after : Tables}
    (flushed : flushDeleteStudent student enrollments tables = .ok after) :
    enrollments = [] ∧ ∃ row, tables.students.find? student.id = some row ∧
      row.versionId = student.versionId ∧
      after = { tables with students := tables.students.erase student.id } := by
  unfold flushDeleteStudent at flushed
  cases detached : detachRequired enrollments
      (fun row => (tables.enrollments.find? row.id).isSome) with
  | error kind =>
      rw [detached] at flushed
      cases flushed
  | ok done =>
      rw [detached] at flushed
      simp only [bind, Except.bind] at flushed
      split at flushed
      · rename_i current
        obtain ⟨row, found, same⟩ := (Option.any_eq_true _ _).mp current
        cases flushed
        exact ⟨detachRequired_ok detached, row, found, by simpa using same,
          rfl⟩
      · cases flushed

/-- `Student(**student.model_dump())` as it is inserted. -/
def StudentCreate.row (student : StudentCreate) (choice : Choice) :
    Student where
  id := choice.newId
  name := student.name
  age := student.age
  email := student.email
  createdAt := choice.now
  departmentId := student.departmentId
  userId := none
  versionId := 1

def commitNewStudent (student : StudentCreate) : Py Student :=
  transaction .registrar fun choice store =>
    (store.commit (insertStudent (student.row choice))).map fun done =>
      (student.row choice, done.2)

def commitStudent (student : Student) (change : StudentChange)
    (carried : Option Nat) : Py Unit :=
  transaction (.student (.updateStudent student change carried))
    fun _ store => store.commit (flushStudent student change)

def refreshStudent (studentId : Id) : Py Student := do
  let student ← query fun store => store.db.tables.students.find? studentId
  match student with
  | none => throw (.other "InvalidRequestError" "Could not refresh instance")
  | some student => return student

/-! ## The cache -/

/-- `_invalidate_student_cache`.  The mark is for the specifications: this is
the last step of the write. -/
def invalidateStudentCache (studentId : Id) (mark : WriteMark) : Py Unit :=
  command (.student (.cacheDelete studentId mark)) fun _ choice store =>
    ((), { store with
      cache := if choice.redisUp then fun other =>
          if other = studentId then none else store.cache other
        else store.cache
      returned := (studentId, mark) :: store.returned })

/-- `get_redis_client() is not None`. -/
def getRedisClient : Py Bool :=
  internal fun _ choice store => (choice.redisUp, store)

def readCachedStudent (libraries : Libraries) (studentId : Id) :
    Py (Option StudentResponse) :=
  internal fun _ choice store =>
    let cached := (store.cache studentId).filter fun entry =>
      choice.redisUp && decide (choice.now < entry.expiresAt)
    (cached.bind fun entry =>
      if entry.json = "" then none else libraries.loadStudent entry.json, store)

def writeCachedStudent (libraries : Libraries) (studentId : Id)
    (response : StudentResponse) : Py Unit :=
  command (.student (.cacheSet studentId response)) fun _ choice store =>
    ((), { store with
      cache := if choice.redisUp then fun other =>
          if other = studentId then
            some ⟨libraries.dumpStudent response, choice.now + 60⟩
          else store.cache other
        else store.cache })

/-! ## The operations -/

def createStudent (student : StudentCreate) : Py Student :=
  tryCatch
    (do
      let newStudent ← commitNewStudent student
      refreshStudent newStudent.id)
    handleCreateErrors

/-- What `update_student` assigns, as columns that differ from the loaded
row. -/
def studentChange (student : Student) (studentUpdate : StudentUpdate) :
    StudentChange where
  name := studentUpdate.name.bind (dirty student.name)
  departmentId := studentUpdate.departmentId.bind (dirty student.departmentId)
  age := studentUpdate.age.bind fun age => dirty student.age (some age)
  email := studentUpdate.email.bind (dirty student.email)

def updateStudent (studentUpdate : StudentUpdate) (studentId : Id) :
    Py Student := do
  let student ← query fun store => store.db.tables.students.find? studentId
  match student with
  | none => throw studentNotFound
  | some student =>
      if studentUpdate.versionId.any
          (fun version => decide (student.versionId ≠ version)) then
        throw versionMismatch
      let change := studentChange student studentUpdate
      let updated ← tryCatch
        (do
          commitStudent student change studentUpdate.versionId
          refreshStudent student.id)
        handleStudentErrors
      invalidateStudentCache studentId
        (.version (change.versionAfter student.versionId))
      return updated

/-- Whether the query of `read_student` lets this user see the row. -/
def maySee (user : User) (student : Student) : Bool :=
  decide (user.role ≠ .user) || decide (student.userId = some user.id)

/-- Only administrators are served from the cache. -/
def lookUpStudent (libraries : Libraries) (studentId : Id) (caches : Bool) :
    Py (Option StudentResponse) :=
  if caches then readCachedStudent libraries studentId else return none

/-- `StudentResponseSchema.model_validate(student)`. -/
def modelValidate (libraries : Libraries) (student : Student) :
    Py StudentResponse :=
  if studentResponse libraries.emailStr student then return .ofRow student
  else throw validationError

theorem modelValidate_bind {β : Type} (libraries : Libraries)
    (student : Student) (rest : StudentResponse → Py β) :
    modelValidate libraries student >>= rest =
      if studentResponse libraries.emailStr student then
        rest (.ofRow student)
      else throw validationError := by
  unfold modelValidate
  split
  · rfl
  · rfl

def readStudent (libraries : Libraries) (studentId : Id) (user : User) :
    Py StudentResponse := do
  let redis ← getRedisClient
  if user.role = .guest then throw forbidden
  let caches := decide (user.role = .admin) && redis
  let cached ← lookUpStudent libraries studentId caches
  match cached with
  | some response => return response
  | none =>
      let student ← select (fitsInteger studentId) fun store =>
        (store.db.tables.students.find? studentId).filter (maySee user)
      match student with
      | none => throw studentNotFound
      | some student =>
          let response ← modelValidate libraries student
          if caches then writeCachedStudent libraries studentId response
          return response

def readStudents (user : User) (skip limit : Nat) : Py (List Student) := do
  if user.role = .guest then throw forbidden
  select (fitsInteger skip && fitsInteger limit) fun store =>
    page Student.id skip limit
      (store.db.tables.students.rows.filter (maySee user))

def getCurrentStudent (userId : Id) : Py (Option Student) :=
  query fun store => store.db.tables.students.rows.find? fun row =>
    decide (row.userId = some userId)

def deleteStudentRow (studentId : Id) :
    RowDeletion Student (List Enrollment) where
  label student := .student (.deleteStudent student)
  load tables := tables.students.find? studentId
  notFound := studentNotFound
  dependents student tables := tables.enrollments.rows.filter fun row =>
    decide (row.studentId = student.id)
  flush := flushDeleteStudent
  referenced := studentReferenced

def studentDeleted : String := "Student deleted successfully"

def deleteStudent (studentId : Id) : Py String := do
  let _ ← deleteRow (deleteStudentRow studentId)
  invalidateStudentCache studentId .deleted
  return studentDeleted

def linkChange (userId : Id) : StudentChange := { userId := some (some userId) }

def linkStudentToUser (studentId userId : Id) : Py Student := do
  let student ← query fun store => store.db.tables.students.find? studentId
  match student with
  | none => throw studentNotFound
  | some student =>
      let user ← query fun store => store.db.tables.users.find? userId
      match user with
      | none => throw userNotFound
      | some user =>
          if student.userId.isSome then throw studentLinked
          let linked ← query fun store =>
            store.db.tables.students.rows.find? fun row =>
              decide (row.userId = some user.id)
          if linked.isSome then throw userLinked
          let change := linkChange userId
          let updated ← tryCatch
            (do
              commitStudent student change none
              let updated ← refreshStudent student.id
              let _ ← refreshUser user.id
              return updated)
            handleLinkErrors
          invalidateStudentCache updated.id
            (.version (change.versionAfter student.versionId))
          return updated

end SystemUni.Crud.Student
