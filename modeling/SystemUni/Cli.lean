import SystemUni.Crud.User

/-!
# The command line

`create_admin` of `app/cli.py`: it bootstraps an administrator and answers with
an exit code.
-/

set_option autoImplicit false

namespace SystemUni.Cli

open SystemUni.Runtime.Errors
open SystemUni.Runtime.External
open SystemUni.Runtime.Statements
open SystemUni.Models.Rows
open SystemUni.Security.Auth
open SystemUni.Crud.User

/-- The options `--email`, `--username` and `--password`. -/
structure AdminArguments where
  email : Option String := none
  username : Option String := none
  password : Option String := none

/-- `ADMIN_EMAIL`, `ADMIN_USERNAME`, `ADMIN_PASSWORD` and what `getpass` reads
at a terminal. -/
structure Environment where
  adminEmail : Option String := none
  adminUsername : Option String := none
  adminPassword : Option String := none
  prompted : Option String := none

/-- `value or other`; the empty text is falsy too. -/
def orElse (value other : Option String) : Option String :=
  match value with
  | none => other
  | some text => if text = "" then other else some text

/-- `None` when the value is missing or empty. -/
def truthy (value : Option String) : Option String := orElse value none

structure AdminAccount where
  email : String
  username : String
  password : String

/-- What `create_admin` resolves its parameters to; `none` when one is
missing. -/
def resolve (environment : Environment) (arguments : AdminArguments) :
    Option AdminAccount := do
  let email ← truthy (orElse arguments.email environment.adminEmail)
  let username ← truthy (orElse arguments.username environment.adminUsername)
  let password ← truthy (orElse
    (orElse arguments.password environment.adminPassword)
    environment.prompted)
  return ⟨email, username, password⟩

/-- `scalar_one_or_none()`. -/
def scalarOneOrNone (rows : List User) : Except Exc (Option User) :=
  match rows with
  | [] => .ok none
  | [user] => .ok (some user)
  | _ :: _ :: _ =>
      .error (.other "MultipleResultsFound"
        "Multiple rows were found when one or none was required")

def insertAdmin (libraries : Libraries) (account : AdminAccount) : Py Nat := do
  let existing ← query fun store =>
    store.db.tables.users.rows.filter fun row =>
      decide (row.email = account.email) ||
        decide (row.username = account.username)
  match scalarOneOrNone existing with
  | .error exc => throw exc
  | .ok (some _) => return 0
  | .ok none =>
      let hashed ← hashPassword libraries account.password
      let newAdmin ← commitNewUser fun choice =>
        { id := choice.newId
          username := account.username
          email := account.email
          role := .admin
          createdAt := choice.now
          passwordHash := hashed
          tokenVersion := 0 }
      let _ ← refreshUser newAdmin.id
      return 0

def createAdmin (libraries : Libraries) (environment : Environment)
    (arguments : AdminArguments) : Py Nat :=
  match resolve environment arguments with
  | none => return 1
  | some account =>
      withFinally
        (tryCatch (insertAdmin libraries account) fun _ => do
          rollback
          return 1)
        rollback

end SystemUni.Cli
