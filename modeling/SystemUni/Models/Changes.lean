import SystemUni.Models.Rows

/-!
# What a flush writes

The ORM compares every attribute with the value it loaded and puts only the
changed columns into the `UPDATE`.  A change lists those columns; applied to a
row it leaves the others as they are in the database at that moment.
-/

set_option autoImplicit false

namespace SystemUni.Models.Changes

open SystemUni.Runtime.Errors
open SystemUni.Models.Rows

/-- The value to write, if setting the attribute changed it. -/
def dirty {α : Type} [DecidableEq α] (loaded assigned : α) : Option α :=
  if loaded = assigned then none else some assigned

structure UserChange where
  username : Option String := none
  email : Option String := none
  passwordHash : Option String := none
  role : Option UserRole := none
  tokenVersion : Option Nat := none
  deriving DecidableEq

def UserChange.apply (change : UserChange) (row : User) : User :=
  { row with
    username := change.username.getD row.username
    email := change.email.getD row.email
    passwordHash := change.passwordHash.getD row.passwordHash
    role := change.role.getD row.role
    tokenVersion := change.tokenVersion.getD row.tokenVersion }

/-- Every text written fits its column. -/
def UserChange.fits (change : UserChange) : Bool :=
  change.username.all (fitsVarchar 150) &&
    change.email.all (fitsVarchar 150) &&
    change.passwordHash.all (fitsVarchar 255)

@[simp] theorem UserChange.apply_id (change : UserChange) (row : User) :
    (change.apply row).id = row.id := rfl

structure StudentChange where
  name : Option String := none
  departmentId : Option Id := none
  age : Option (Option Int) := none
  email : Option String := none
  userId : Option (Option Id) := none
  deriving DecidableEq

/-- The columns written, and `version_id` one above the version loaded. -/
def StudentChange.apply (change : StudentChange) (version : Nat)
    (row : Student) : Student :=
  { row with
    name := change.name.getD row.name
    departmentId := change.departmentId.getD row.departmentId
    age := change.age.getD row.age
    email := change.email.getD row.email
    userId := change.userId.getD row.userId
    versionId := version + 1 }

/-- Every value written fits its column. -/
def StudentChange.fits (change : StudentChange) : Bool :=
  change.name.all (fitsVarchar 150) &&
    change.email.all (fitsVarchar 150) &&
    change.departmentId.all fitsInteger

/-- The row's version after a flush that met it at this version. -/
def StudentChange.versionAfter (change : StudentChange) (version : Nat) :
    Nat :=
  if change = {} then version else version + 1

@[simp] theorem StudentChange.apply_id (change : StudentChange)
    (version : Nat) (row : Student) :
    (change.apply version row).id = row.id := rfl

@[simp] theorem StudentChange.apply_versionId (change : StudentChange)
    (version : Nat) (row : Student) :
    (change.apply version row).versionId = version + 1 := rfl

/-- `StudentResponseSchema`. -/
structure StudentResponse where
  name : String
  departmentId : Id
  age : Option Int
  email : String
  id : Id
  userId : Option Id
  versionId : Nat
  createdAt : Time
  deriving DecidableEq

def StudentResponse.ofRow (row : Student) : StudentResponse where
  name := row.name
  departmentId := row.departmentId
  age := row.age
  email := row.email
  id := row.id
  userId := row.userId
  versionId := row.versionId
  createdAt := row.createdAt

end SystemUni.Models.Changes
