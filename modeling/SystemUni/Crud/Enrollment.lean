import SystemUni.Crud.Rows
import SystemUni.Crud.Student

/-!
# Enrollments

`app/crud/enrollment.py` and its request schemas.
-/

set_option autoImplicit false

namespace SystemUni.Crud.Enrollment

open Relational
open SystemUni.Runtime.Errors
open SystemUni.Runtime.Statements
open SystemUni.Models.Rows
open SystemUni.Models.Schema
open SystemUni.Crud.User
open SystemUni.Crud.Deletion
open SystemUni.Crud.Rows
open SystemUni.Crud.Student

/-! ## Payloads -/

structure EnrollmentCreate where
  studentId : Id
  courseOfferingId : Id
  enrollmentCode : String
  grade : Option Int := none
  isActive : Bool := true
  isWithdrawn : Bool := false
  studentIdPositive : 0 < studentId
  courseOfferingIdPositive : 0 < courseOfferingId
  codeLength : 1 ≤ enrollmentCode.length ∧ enrollmentCode.length ≤ 50
  gradeBounds : ∀ value, grade = some value → 0 ≤ value ∧ value ≤ 100

structure EnrollmentUpdate where
  studentId : Option Id := none
  courseOfferingId : Option Id := none
  enrollmentCode : Option String := none
  grade : Option Int := none
  isActive : Option Bool := none
  isWithdrawn : Option Bool := none
  studentIdPositive : ∀ value, studentId = some value → 0 < value
  courseOfferingIdPositive : ∀ value, courseOfferingId = some value → 0 < value
  codeLength : ∀ code, enrollmentCode = some code →
    1 ≤ code.length ∧ code.length ≤ 50
  gradeBounds : ∀ value, grade = some value → 0 ≤ value ∧ value ≤ 100

/-- `Enrollment(**enrollment.model_dump())` as it is inserted. -/
def EnrollmentCreate.row (enrollment : EnrollmentCreate) (choice : Choice) :
    Enrollment where
  id := choice.newId
  studentId := enrollment.studentId
  courseOfferingId := enrollment.courseOfferingId
  enrollmentCode := enrollment.enrollmentCode
  grade := enrollment.grade
  isActive := enrollment.isActive
  isWithdrawn := enrollment.isWithdrawn
  createdAt := choice.now

def EnrollmentCreate.samePair (enrollment : EnrollmentCreate)
    (row : Enrollment) : Bool :=
  decide (row.studentId = enrollment.studentId) &&
    decide (row.courseOfferingId = enrollment.courseOfferingId)

def EnrollmentCreate.sameCode (enrollment : EnrollmentCreate)
    (row : Enrollment) : Bool :=
  decide (row.enrollmentCode = enrollment.enrollmentCode)

/-! ## Errors -/

def courseOfferingNotFound : Exc :=
  .httpException 404 "Course offering not found"

def alreadyEnrolled : Exc :=
  .httpException 409 "Student is already enrolled in this course offering"

def codeDuplicate : Exc := .httpException 409 "Enrollment code duplicate"

def enrollmentConflict : Exc :=
  .httpException 409
    "Student is already enrolled in this course offering or enrollment code duplicate"

def invalidEnrollment : Exc :=
  .httpException 422 "Invalid enrollment data provided"

def enrollmentNotFound : Exc := .httpException 404 "Enrollment not found"

def enrollmentViolation : Exc :=
  .httpException 409 "Enrollment constraint violation"

def enrollmentReferenced : Exc :=
  .httpException 409
    "Cannot delete enrollment due to database constraints"

/-- The `except` clauses of `create_enrollment`. -/
def handleEnrollmentErrors {α : Type} (exc : Exc) : Py α :=
  match exc with
  | .sql .integrityError _ => do
      rollback
      throw enrollmentConflict
  | .sql .dataError _ => do
      rollback
      throw invalidEnrollment
  | exc => throw exc

theorem handles_enrollmentErrors {α : Type} :
    Handles (handleEnrollmentErrors : Exc → Py α) := by
  intro exc
  unfold handleEnrollmentErrors
  split
  · exact .inr ⟨_, _, _, rfl, by simp, rfl⟩
  · exact .inr ⟨_, _, _, rfl, by simp, rfl⟩
  · exact .inl rfl

/-! ## The insert -/

/-- Every value of the row fits its column. -/
def enrollmentFits (row : Enrollment) : Bool :=
  fitsInteger row.studentId && fitsInteger row.courseOfferingId &&
    fitsText row.enrollmentCode && decide (row.enrollmentCode.length ≤ 50)

def insertEnrollment (row : Enrollment) (tables : Tables) :
    Except SqlError Tables :=
  if !enrollmentFits row then .error .dataError
  else if fresh : tables.enrollments.find? row.id = none then
    .ok { tables with enrollments := tables.enrollments.insert row fresh }
  else .error .integrityError

theorem insertEnrollment_ok {row : Enrollment} {tables after : Tables}
    (inserted : insertEnrollment row tables = .ok after) :
    ∃ fresh : tables.enrollments.find? row.id = none,
      after = { tables with
        enrollments := tables.enrollments.insert row fresh } := by
  unfold insertEnrollment at inserted
  split at inserted
  · cases inserted
  split at inserted
  · rename_i fresh
    cases inserted
    exact ⟨fresh, rfl⟩
  · cases inserted

def commitNewEnrollment (enrollment : EnrollmentCreate) : Py Enrollment :=
  transaction .registrar fun choice store =>
    (store.commit (insertEnrollment (enrollment.row choice))).map fun done =>
      (enrollment.row choice, done.2)

def refreshEnrollment (enrollmentId : Id) : Py Enrollment := do
  let enrollment ← query fun store =>
    store.db.tables.enrollments.find? enrollmentId
  match enrollment with
  | none => throw (.other "InvalidRequestError" "Could not refresh instance")
  | some enrollment => return enrollment

/-! ## `create_enrollment` -/

def createEnrollment (enrollment : EnrollmentCreate) : Py Enrollment := do
  let student ← select (fitsInteger enrollment.studentId) fun store =>
    store.db.tables.students.find? enrollment.studentId
  if student.isNone then throw studentNotFound
  let courseOffering ← select (fitsInteger enrollment.courseOfferingId)
    fun store =>
      store.db.tables.courseOfferings.find? enrollment.courseOfferingId
  if courseOffering.isNone then throw courseOfferingNotFound
  let existingEnrollment ← select
    (fitsInteger enrollment.studentId &&
      fitsInteger enrollment.courseOfferingId)
    fun store => store.db.tables.enrollments.rows.find? enrollment.samePair
  if existingEnrollment.isSome then throw alreadyEnrolled
  let existingCode ← select (fitsText enrollment.enrollmentCode) fun store =>
    store.db.tables.enrollments.rows.find? enrollment.sameCode
  if existingCode.isSome then throw codeDuplicate
  tryCatch
    (do
      let newEnrollment ← commitNewEnrollment enrollment
      refreshEnrollment newEnrollment.id)
    handleEnrollmentErrors

/-! ## `update_enrollment` -/

def enrollmentChange (update : EnrollmentUpdate) (loaded : Enrollment) :
    RowChange Enrollment.id :=
  let studentId := assigned loaded.studentId update.studentId
  let courseOfferingId :=
    assigned loaded.courseOfferingId update.courseOfferingId
  let enrollmentCode := assigned loaded.enrollmentCode update.enrollmentCode
  let grade := assigned loaded.grade (update.grade.map some)
  let isActive := assigned loaded.isActive update.isActive
  let isWithdrawn := assigned loaded.isWithdrawn update.isWithdrawn
  { apply := fun row => { row with
      studentId := studentId.getD row.studentId
      courseOfferingId := courseOfferingId.getD row.courseOfferingId
      enrollmentCode := enrollmentCode.getD row.enrollmentCode
      grade := grade.getD row.grade
      isActive := isActive.getD row.isActive
      isWithdrawn := isWithdrawn.getD row.isWithdrawn }
    same := fun _ => rfl
    empty := studentId.isNone && courseOfferingId.isNone &&
      enrollmentCode.isNone && grade.isNone && isActive.isNone &&
      isWithdrawn.isNone
    fits := studentId.all fitsInteger && courseOfferingId.all fitsInteger &&
      enrollmentCode.all (fitsVarchar 50) }

def updateEnrollment (update : EnrollmentUpdate) (enrollmentId : Id) :
    Py Enrollment :=
  updateRow enrollments enrollmentNotFound
    ⟨enrollmentViolation, invalidEnrollment⟩ (enrollmentChange update)
    (fun _ => .ok ()) enrollmentId

/-! ## Reading -/

/-- Whether the queries of `read_enrollment` and `read_enrollments` let this
user see the row; for a mere user they join the student. -/
def maySeeEnrollment (user : User) (tables : Tables) (row : Enrollment) :
    Bool :=
  decide (user.role ≠ .user) ||
    (tables.students.find? row.studentId).any fun student =>
      decide (student.userId = some user.id)

def readEnrollment (enrollmentId : Id) (user : User) : Py Enrollment := do
  if user.role = .guest then throw forbidden
  let enrollment ← select (fitsInteger enrollmentId) fun store =>
    (store.db.tables.enrollments.find? enrollmentId).filter
      (maySeeEnrollment user store.db.tables)
  match enrollment with
  | none => throw enrollmentNotFound
  | some enrollment => return enrollment

def readEnrollments (user : User) (skip limit : Nat) :
    Py (List Enrollment) := do
  if user.role = .guest then throw forbidden
  select (fitsInteger skip && fitsInteger limit) fun store =>
    page Enrollment.id skip limit
      (store.db.tables.enrollments.rows.filter
        (maySeeEnrollment user store.db.tables))

/-! ## `delete_enrollment` -/

/-- Nothing refers to an enrollment. -/
def deleteEnrollmentRow (enrollmentId : Id) : RowDeletion Enrollment Unit where
  label _ := .registrar
  load tables := tables.enrollments.find? enrollmentId
  notFound := enrollmentNotFound
  dependents _ _ := ()
  flush enrollment _ tables := .ok { tables with
    enrollments := tables.enrollments.erase enrollment.id }
  referenced := enrollmentReferenced

def deleteEnrollment (enrollmentId : Id) : Py String := do
  let _ ← deleteRow (deleteEnrollmentRow enrollmentId)
  return "Enrollment deleted successfully"

end SystemUni.Crud.Enrollment
