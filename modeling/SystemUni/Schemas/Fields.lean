import SystemUni.Models.Rows

/-!
# Fields of the schemas

The constraints that `app/schemas/user.py` and `app/schemas/student.py` put on
their fields.  `emailStr` is the predicate of `EmailStr`.
-/

set_option autoImplicit false

namespace SystemUni.Schemas.Fields

open SystemUni.Models.Rows

/-- `Field(min_length=…, max_length=…)`. -/
def lengthBetween (low high : Nat) (text : String) : Bool :=
  decide (low ≤ text.length ∧ text.length ≤ high)

def usernameField : String → Bool := lengthBetween 3 150

def passwordField : String → Bool := lengthBetween 8 128

def nameField : String → Bool := lengthBetween 1 150

/-- `Field(gt=0)`. -/
def departmentField (departmentId : Id) : Bool := decide (0 < departmentId)

/-- `Field(gt=0, le=120)`. -/
def ageField (age : Int) : Bool := decide (0 < age ∧ age ≤ 120)

section Responses

variable (emailStr : String → Bool)

def studentBase (name : String) (departmentId : Id) (age : Option Int)
    (email : String) : Bool :=
  nameField name && departmentField departmentId && age.all ageField &&
    emailStr email

def userResponse (row : User) : Bool := emailStr row.email

/-- `StudentResponseSchema`. -/
def studentResponse (row : Student) : Bool :=
  studentBase emailStr row.name row.departmentId row.age row.email

end Responses

end SystemUni.Schemas.Fields
