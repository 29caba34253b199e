import SystemUni.Security.Auth

/-!
# Accounts

`app/crud/user.py`, `app/schemas/user.py` and the session of `get_db`.  A
payload is what the request schemas let through.
-/

set_option autoImplicit false

namespace SystemUni.Crud.User

open Relational
open SystemUni.Runtime.Errors
open SystemUni.Runtime.External
open SystemUni.Runtime.Statements
open SystemUni.Models.Rows
open SystemUni.Models.Changes
open SystemUni.Models.Schema
open SystemUni.Security.Auth

/-! ## Payloads -/

structure UserRegister where
  username : String
  email : String
  password : String

structure UserCreate where
  username : String
  email : String
  role : UserRole := .guest
  password : String

structure UserUpdate where
  username : Option String := none
  email : Option String := none
  role : Option UserRole := none
  password : Option String := none

structure UserSelfUpdate where
  username : Option String := none
  email : Option String := none
  password : Option String := none

structure UserLogin where
  email : String
  password : String

/-! ## Errors -/

def userNotFound : Exc := .httpException 404 "User not found"

def lastAdmin : Exc :=
  .httpException 400 "Cannot remove the last admin account"

def userConflict : Exc :=
  .httpException 409 "Username or email already exists"

def invalidUserInput : Exc := .httpException 422 "Invalid user input data"

def userReferenced : Exc :=
  .httpException 409 "Cannot delete user due to existing relationships"

def incorrectLogin : Exc :=
  .httpException 401 "user or password incorrect"

/-! ## The session -/

/-- `db.rollback()`; `db.close()` does the same to an open transaction. -/
def rollback : Py Unit :=
  command (.account .rollback) fun me _ store => ((), store.releaseLocks me)

/-- How the `except` clauses of a write end: an error of the database, other
than a lost connection, may be rolled back and reported as another; the rest
is raised again. -/
def Handles {α : Type} (handler : Exc → Py α) : Prop :=
  ∀ exc, handler exc = throw exc ∨
    ∃ kind text reported, exc = .sql kind text ∧ kind ≠ .operationalError ∧
      handler exc = (do
        rollback
        throw reported)

def getDb {α : Type} (request : Py α) : Py α :=
  withFinally
    (tryCatch request fun exc => do
      rollback
      throw exc)
    rollback

/-- The `except` clauses after a commit of a user row. -/
def handleUserErrors {α : Type} (exc : Exc) : Py α :=
  match exc with
  | .sql .integrityError _ => do
      rollback
      throw userConflict
  | .sql .dataError _ => do
      rollback
      throw invalidUserInput
  | exc => throw exc

theorem handles_userErrors {α : Type} :
    Handles (handleUserErrors : Exc → Py α) := by
  intro exc
  unfold handleUserErrors
  split
  · exact .inr ⟨_, _, _, rfl, by simp, rfl⟩
  · exact .inr ⟨_, _, _, rfl, by simp, rfl⟩
  · exact .inl rfl

def refreshUser (userId : Id) : Py User := do
  let user ← query fun store => store.db.tables.users.find? userId
  match user with
  | none => throw (.other "InvalidRequestError" "Could not refresh instance")
  | some user => return user

/-! ## `ensure_admin_remains` -/

def isAdmin (user : User) : Bool := decide (user.role = .admin)

/-- The lock on one row of `SELECT … FOR UPDATE`: it waits for the holder and
evaluates the condition again on the latest row. -/
def lockAdmin (userId : Id) : Py Bool :=
  lockingTransaction (.account (.lockAdmin userId))
    (fun me store => store.lockFree me userId)
    fun me _ store =>
      if (store.db.tables.users.find? userId).any isAdmin then
        .ok (true, store.lock me userId)
      else .ok (false, store)

/-- The rows of a snapshot that could be locked as administrators. -/
def lockAdmins : List Id → Py (List Id)
  | [] => return []
  | userId :: rest => do
      let locked ← lockAdmin userId
      let others ← lockAdmins rest
      return if locked then userId :: others else others

def ensureAdminRemains (user : User) (nextRole : Option UserRole) :
    Py Unit := do
  if user.role ≠ .admin ∨ nextRole = some .admin then return ()
  let snapshot ← query fun store =>
    (store.db.tables.users.rows.filter isAdmin).map fun row => row.id
  let adminIds ← lockAdmins snapshot
  if adminIds.length ≤ 1 then throw lastAdmin

/-! ## Flushes -/

/-- `UPDATE users SET … WHERE id`, if any column changed. -/
def flushUser (userId : Id) (change : UserChange) (tables : Tables) :
    Except SqlError Tables :=
  if change = {} then .ok tables
  else if !change.fits then .error .dataError
  else if (tables.users.find? userId).isNone then .error .staleDataError
  else .ok { tables with
    users := tables.users.updateWhere (fun row => decide (row.id = userId))
      change.apply change.apply_id }

theorem flushUser_ok {userId : Id} {change : UserChange}
    {tables after : Tables} (flushed : flushUser userId change tables =
      .ok after) :
    change = {} ∧ after = tables ∨
      change ≠ {} ∧ ∃ row, tables.users.find? userId = some row ∧
        after = { tables with
          users := tables.users.updateWhere
            (fun row => decide (row.id = userId))
            change.apply change.apply_id } := by
  unfold flushUser at flushed
  split at flushed
  · rename_i empty
    cases flushed
    exact .inl ⟨empty, rfl⟩
  · rename_i dirtied
    split at flushed
    · cases flushed
    split at flushed
    · cases flushed
    · rename_i present
      cases flushed
      obtain ⟨row, found⟩ :=
        Option.ne_none_iff_exists'.mp (mt Option.isNone_iff_eq_none.mpr present)
      exact .inr ⟨dirtied, row, found, rfl⟩

def insertUser (user : User) (tables : Tables) : Except SqlError Tables :=
  if !user.fits then .error .dataError
  else if fresh : tables.users.find? user.id = none then
    .ok { tables with users := tables.users.insert user fresh }
  else .error .integrityError

theorem insertUser_ok {user : User} {tables after : Tables}
    (inserted : insertUser user tables = .ok after) :
    ∃ fresh : tables.users.find? user.id = none,
      after = { tables with users := tables.users.insert user fresh } := by
  unfold insertUser at inserted
  split at inserted
  · cases inserted
  split at inserted
  · rename_i fresh
    cases inserted
    exact ⟨fresh, rfl⟩
  · cases inserted

def unlinkChange : StudentChange := { userId := some none }

/-- Before the `DELETE` of a user the linked student, if one was loaded, loses
its `user_id` in an update guarded by its version. -/
def unlinkStudent (dependent : Option Student) (tables : Tables) :
    Except SqlError Tables :=
  match dependent with
  | none => .ok tables
  | some student =>
      if (tables.students.find? student.id).any
          (fun row => decide (row.versionId = student.versionId)) then
        .ok { tables with
          students := tables.students.updateWhere
            (fun row => decide (row.id = student.id))
            (unlinkChange.apply student.versionId)
            (StudentChange.apply_id _ _) }
      else .error .staleDataError

theorem unlinkStudent_ok {dependent : Option Student} {tables after : Tables}
    (unlinked : unlinkStudent dependent tables = .ok after) :
    dependent = none ∧ after = tables ∨
      ∃ student row, dependent = some student ∧
        tables.students.find? student.id = some row ∧
        row.versionId = student.versionId ∧
        after = { tables with
          students := tables.students.updateWhere
            (fun row => decide (row.id = student.id))
            (unlinkChange.apply student.versionId)
            (StudentChange.apply_id _ _) } := by
  unfold unlinkStudent at unlinked
  split at unlinked
  · cases unlinked
    exact .inl ⟨rfl, rfl⟩
  · rename_i student
    split at unlinked
    · rename_i current
      obtain ⟨row, found, same⟩ := (Option.any_eq_true _ _).mp current
      cases unlinked
      exact .inr ⟨student, row, rfl, found, by simpa using same, rfl⟩
    · cases unlinked

/-- The student that the flush of a deleted account loads. -/
def linkedStudent (userId : Id) (tables : Tables) : Option Student :=
  tables.students.rows.find? fun row => decide (row.userId = some userId)

def flushDeleteUser (userId : Id) (dependent : Option Student)
    (tables : Tables) : Except SqlError Tables := do
  let unlinked ← unlinkStudent dependent tables
  return { unlinked with users := unlinked.users.erase userId }

theorem flushDeleteUser_ok {userId : Id} {dependent : Option Student}
    {tables after : Tables}
    (flushed : flushDeleteUser userId dependent tables = .ok after) :
    ∃ unlinked, unlinkStudent dependent tables = .ok unlinked ∧
      after = { unlinked with users := tables.users.erase userId } := by
  unfold flushDeleteUser at flushed
  cases unlinked : unlinkStudent dependent tables with
  | error kind =>
      rw [unlinked] at flushed
      cases flushed
  | ok rest =>
      rw [unlinked] at flushed
      cases flushed
      refine ⟨rest, rfl, ?_⟩
      have sameUsers : rest.users = tables.users := by
        rcases unlinkStudent_ok unlinked with
          ⟨_, same⟩ | ⟨student, row, _, _, _, same⟩
        · rw [same]
        · rw [same]
      rw [sameUsers]

/-! ## Commits -/

/-- Flush and commit a changed user row.  The `UPDATE` waits for the row lock;
the commit releases the locks of the session. -/
def commitUser (read : User) (change : UserChange) : Py Unit :=
  lockingTransaction (.account (.updateUser read change))
    (fun me store => decide (change = {}) || store.lockFree me read.id)
    fun me _ store =>
      (store.releaseLocks me).commit (flushUser read.id change)

def commitNewUser (user : Choice → User) : Py User :=
  transaction (.account .registerUser) fun choice store =>
    (store.commit (insertUser (user choice))).map fun done =>
      (user choice, done.2)

def commitDeleteUser (read : User) (dependent : Option Student) : Py Unit :=
  lockingTransaction (.account (.deleteUser read dependent))
    (fun me store => store.lockFree me read.id)
    fun me _ store =>
      (store.releaseLocks me).commit (flushDeleteUser read.id dependent)

/-! ## The operations -/

def registerUser (libraries : Libraries) (user : UserRegister) : Py User := do
  let passwordHash ← hashPassword libraries user.password
  tryCatch
    (do
      let newUser ← commitNewUser fun choice =>
        { id := choice.newId
          username := user.username
          email := libraries.lower user.email
          role := .guest
          createdAt := choice.now
          passwordHash := passwordHash
          tokenVersion := 0 }
      refreshUser newUser.id)
    handleUserErrors

def createUser (libraries : Libraries) (user : UserCreate) : Py User := do
  let passwordHash ← hashPassword libraries user.password
  tryCatch
    (do
      let newUser ← commitNewUser fun choice =>
        { id := choice.newId
          username := user.username
          email := libraries.lower user.email
          role := user.role
          createdAt := choice.now
          passwordHash := passwordHash
          tokenVersion := 0 }
      refreshUser newUser.id)
    handleUserErrors

/-- What `update_user` assigns, as columns that differ from the loaded row. -/
def userChange (libraries : Libraries) (user : User)
    (username email : Option String) (role : Option UserRole)
    (passwordHash : Option String) : UserChange where
  username := username.bind (dirty user.username)
  email := email.bind fun email => dirty user.email (libraries.lower email)
  passwordHash := passwordHash.bind (dirty user.passwordHash)
  role := role.bind (dirty user.role)
  tokenVersion :=
    if passwordHash.isSome || role.isSome then some (user.tokenVersion + 1)
    else none

def hashOptional (libraries : Libraries) (password : Option String) :
    Py (Option String) := do
  match password with
  | none => return none
  | some password =>
      let passwordHash ← hashPassword libraries password
      return some passwordHash

def updateUser (libraries : Libraries) (userUpdate : UserUpdate)
    (userId : Id) : Py User := do
  let user ← query fun store => store.db.tables.users.find? userId
  match user with
  | none => throw userNotFound
  | some user =>
      ensureAdminRemains user userUpdate.role
      let passwordHash ← hashOptional libraries userUpdate.password
      let change := userChange libraries user userUpdate.username
        userUpdate.email userUpdate.role passwordHash
      tryCatch
        (do
          commitUser user change
          refreshUser user.id)
        handleUserErrors

def updateUserMe (libraries : Libraries) (userUpdate : UserSelfUpdate)
    (currentUser : User) : Py User := do
  let passwordHash ← hashOptional libraries userUpdate.password
  let change := userChange libraries currentUser userUpdate.username
    userUpdate.email none passwordHash
  tryCatch
    (do
      commitUser currentUser change
      refreshUser currentUser.id)
    handleUserErrors

def readUser (userId : Id) : Py User := do
  let user ← select (fitsInteger userId) fun store =>
    store.db.tables.users.find? userId
  match user with
  | none => throw userNotFound
  | some user => return user

/-- `ORDER BY id OFFSET skip LIMIT limit`. -/
def page {ρ : Type} (key : ρ → Id) (skip limit : Nat) (rows : List ρ) :
    List ρ :=
  ((rows.mergeSort fun first second => decide (key first ≤ key second)).drop
    skip).take limit

def readUsers (skip limit : Nat) : Py (List User) :=
  select (fitsInteger skip && fitsInteger limit) fun store =>
    page User.id skip limit store.db.tables.users.rows

def userDeleted : String := "User deleted successfully"

/-- The flush reads the linked student before it writes. -/
def deleteUser (userId : Id) : Py String := do
  let user ← query fun store => store.db.tables.users.find? userId
  match user with
  | none => throw userNotFound
  | some user =>
      ensureAdminRemains user none
      tryCatch
        (do
          let dependent ← query fun store =>
            store.db.tables.students.rows.find? fun row =>
              decide (row.userId = some user.id)
          commitDeleteUser user dependent)
        fun exc =>
          if exc.isIntegrityError then do
            rollback
            throw userReferenced
          else throw exc
      return userDeleted

def loginUser (libraries : Libraries) (settings : Settings)
    (userLogin : UserLogin) : Py String := do
  let user ← query fun store =>
    store.db.tables.users.rows.find? fun row =>
      decide (row.email = libraries.lower userLogin.email)
  match user with
  | none => throw incorrectLogin
  | some user =>
      match libraries.verifyPassword userLogin.password user.passwordHash with
      | .error exc => throw exc
      | .ok false => throw incorrectLogin
      | .ok true =>
          createAccessToken libraries settings user.id user.tokenVersion

end SystemUni.Crud.User
