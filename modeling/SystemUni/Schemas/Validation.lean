import SystemUni.Accounts.Writers
import SystemUni.Crud.Student

/-!
# What the schemas admit

The requests of `app/schemas/user.py` and `app/schemas/student.py` as
predicates.  `emailStr` is the predicate of `EmailStr`.
-/

set_option autoImplicit false

namespace SystemUni.Schemas.Validation

open SystemUni.Runtime.Errors
open SystemUni.Runtime.External
open SystemUni.Runtime.Statements
open SystemUni.Models.Rows
open SystemUni.Models.Schema
open SystemUni.Crud.User
open SystemUni.Crud.Student
open SystemUni.Accounts.Writers
open SystemUni.Schemas.Fields
open SystemUni.Cli

/-- What is documented of `EmailStr`: an address has an `@` and no special-use
domain, and may be lower-cased. -/
structure EmailRules (emailStr : String → Bool) (lower : String → String) :
    Prop where
  needsAt : ∀ text : String, '@' ∉ text.toList → emailStr text = false
  noLocal : ∀ text : String, emailStr (text ++ ".local") = false
  noInvalid : ∀ text : String, emailStr (text ++ ".invalid") = false
  lowers : ∀ text, emailStr text = true → emailStr (lower text) = true

section Schemas

variable (emailStr : String → Bool)

/-! ## Requests -/

def userRegister (user : UserRegister) : Bool :=
  usernameField user.username && emailStr user.email &&
    passwordField user.password

def userCreate (user : UserCreate) : Bool :=
  usernameField user.username && emailStr user.email &&
    passwordField user.password

def userUpdate (update : UserUpdate) : Bool :=
  update.username.all usernameField && update.email.all emailStr &&
    update.password.all passwordField

def userSelfUpdate (update : UserSelfUpdate) : Bool :=
  update.username.all usernameField && update.email.all emailStr &&
    update.password.all passwordField

def studentCreate (student : StudentCreate) : Bool :=
  studentBase emailStr student.name student.departmentId student.age
    student.email

def studentUpdate (update : StudentUpdate) : Bool :=
  update.name.all nameField && update.departmentId.all departmentField &&
    update.age.all ageField && update.email.all emailStr &&
    update.versionId.all fun versionId => decide (1 ≤ versionId)

/-- The CLI validates nothing. -/
def writerAdmits : Writer → Bool
  | .registerUser user => userRegister emailStr user
  | .createUser user => userCreate emailStr user
  | .updateUser update _ => userUpdate emailStr update
  | .updateUserMe update _ => userSelfUpdate emailStr update
  | .deleteUser _ => true
  | .createAdmin _ _ => true

/-! ## Responses -/

def responseValidationError : Exc := .other "ResponseValidationError" ""

/-- FastAPI validates what an endpoint returns against its response model. -/
def respond {ρ : Type} (accepts : ρ → Bool) (rows : List ρ) :
    Py (List ρ) :=
  if rows.all accepts then return rows else throw responseValidationError

end Schemas

end SystemUni.Schemas.Validation
