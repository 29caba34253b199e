import SystemUni.Runtime.Errors

/-!
# The rows of the university's tables

One structure per mapped class.  A column is an `Option` exactly where the
class declares it nullable.
-/

set_option autoImplicit false

namespace SystemUni.Models.Rows

open SystemUni.Runtime.Errors

abbrev Id := Int

/-! ## Values that fit their columns -/

/-- `INTEGER`. -/
def fitsInteger (value : Int) : Bool :=
  decide (-2147483648 ≤ value ∧ value ≤ 2147483647)

/-- A text without the character NUL. -/
def fitsText (text : String) : Bool :=
  text.toList.all fun character => decide (character.toNat ≠ 0)

/-- A text that fits a column of this length. -/
def fitsVarchar (length : Nat) (text : String) : Bool :=
  fitsText text && decide (text.length ≤ length)

/-! ## Rows -/

inductive UserRole where
  | admin
  | user
  | guest
  deriving DecidableEq

structure User where
  id : Id
  username : String
  email : String
  role : UserRole
  createdAt : Time
  passwordHash : String
  tokenVersion : Nat
  deriving DecidableEq

/-- The texts of a row fit their columns. -/
def User.fits (user : User) : Bool :=
  fitsVarchar 150 user.username && fitsVarchar 150 user.email &&
    fitsVarchar 255 user.passwordHash

structure College where
  id : Id
  name : String
  code : String
  createdAt : Time
  deriving DecidableEq

structure Department where
  id : Id
  name : String
  code : String
  createdAt : Time
  collegeId : Id
  deriving DecidableEq

structure Teacher where
  id : Id
  name : String
  createdAt : Time
  departmentId : Id
  deriving DecidableEq

structure Student where
  id : Id
  name : String
  age : Option Int
  email : String
  createdAt : Time
  departmentId : Id
  userId : Option Id
  versionId : Nat
  deriving DecidableEq

structure Course where
  id : Id
  name : String
  code : String
  createdAt : Time
  departmentId : Option Id
  deriving DecidableEq

structure CourseOffering where
  id : Id
  courseId : Id
  teacherId : Id
  semester : String
  academicYear : Int
  sectionName : String
  createdAt : Time
  deriving DecidableEq

/-- A `TIME WITHOUT TIME ZONE`, in microseconds since midnight. -/
abbrev TimeOfDay := Nat

structure CourseSchedule where
  id : Id
  day : String
  scheduleType : String
  startTime : TimeOfDay
  endTime : TimeOfDay
  room : String
  courseOfferingId : Id
  createdAt : Time
  deriving DecidableEq

structure Enrollment where
  id : Id
  studentId : Id
  courseOfferingId : Id
  enrollmentCode : String
  grade : Option Int
  isActive : Bool
  isWithdrawn : Bool
  createdAt : Time
  deriving DecidableEq

end SystemUni.Models.Rows
