import SystemUni.Runtime.Statements

/-!
# Transcripts

`app/services/reports.py`.  Grade points are exact decimals and `round` rounds
half to even at two decimals.
-/

set_option autoImplicit false

namespace SystemUni.Services.Reports

open SystemUni.Runtime.Errors
open SystemUni.Runtime.Statements
open SystemUni.Models.Rows
open SystemUni.Models.Jobs
open SystemUni.Models.Schema

/-- The hundredths of a grade point that a grade counts for. -/
def gradePoints (grade : Int) : Nat :=
  if 90 ≤ grade then 400
  else if 85 ≤ grade then 370
  else if 80 ≤ grade then 330
  else if 75 ≤ grade then 300
  else if 70 ≤ grade then 270
  else if 65 ≤ grade then 230
  else if 60 ≤ grade then 200
  else 0

/-- `numerator / denominator` rounded to the nearest number, ties to even. -/
def roundHalfEven (numerator denominator : Nat) : Nat :=
  let quotient := numerator / denominator
  let remainder := numerator % denominator
  if 2 * remainder < denominator then quotient
  else if denominator < 2 * remainder then quotient + 1
  else if quotient % 2 = 0 then quotient else quotient + 1

def calculateGpa (grades : List Int) : ℚ :=
  if grades = [] then 0
  else (roundHalfEven (grades.map gradePoints).sum grades.length : ℚ) / 100

def transcriptOf (student : Student) (enrollments : List Enrollment) :
    Transcript where
  studentId := student.id
  name := student.name
  email := student.email
  departmentId := student.departmentId
  gpa := calculateGpa (enrollments.filterMap fun row => row.grade)
  totalCourses := enrollments.length
  courses := enrollments.map CourseRecord.ofRow

/-- The rows that the query returns; it has no `ORDER BY`. -/
def enrollmentsOf (studentId : Id) (tables : Tables) : List Enrollment :=
  tables.enrollments.rows.filter fun row => decide (row.studentId = studentId)

/-- The two reads and the computation; the computation itself may raise any
exception, such as `MemoryError`. -/
def generateStudentTranscript (studentId : Id) : Py (Option Transcript) := do
  let student ← query fun store =>
    store.db.tables.students.find? studentId
  match student with
  | none => return none
  | some student =>
      let enrollments ← query fun store =>
        enrollmentsOf studentId store.db.tables
      let fault ← internal fun _ choice store => (choice.fault, store)
      match fault with
      | some exc => throw exc
      | none => return some (transcriptOf student enrollments)

end SystemUni.Services.Reports
