import SystemUni.Schemas.Validation
import SystemUni.Students.Writers

/-!
# Readers accept what writers store

Revision `261ef2b9bad0` creates the users table and gives every student an
email.  From there the writers are called one after another; the readers
validate each row again on its way out.
-/

set_option autoImplicit false

namespace SystemUni.Schemas.Readers

open Interleaving Relational
open SystemUni.Runtime.Errors
open SystemUni.Runtime.External
open SystemUni.Runtime.Statements
open SystemUni.Runtime.Rules
open SystemUni.Models.Rows
open SystemUni.Models.Changes
open SystemUni.Models.Schema
open SystemUni.Crud.User
open SystemUni.Crud.Student
open SystemUni.Accounts.Writers
open SystemUni.Students.Writers
open SystemUni.Schemas.Fields
open SystemUni.Schemas.Validation
open SystemUni.Cli

/-! ## The back-fill -/

/-- A row of `student` before the revision. -/
structure LegacyStudent where
  id : Id
  name : String
  departmentId : Id
  createdAt : Time

/-- `'legacy-student-' || id || '@invalid.local'`. -/
def legacyEmail (studentId : Id) : String :=
  "legacy-student-" ++ studentId.repr ++ "@invalid.local"

/-- The row as the back-fill leaves it; the columns added later have their
defaults. -/
def backfill (legacy : LegacyStudent) : Student where
  id := legacy.id
  name := legacy.name
  age := none
  email := legacyEmail legacy.id
  createdAt := legacy.createdAt
  departmentId := legacy.departmentId
  userId := none
  versionId := 1

/-- The database after the revision: no account, the students back-filled. -/
structure Migrated (legacy : List LegacyStudent) (store : Store) : Prop where
  users : (committed store).users = .empty
  students : (committed store).students.rows = legacy.map backfill

/-! ## The writers -/

inductive RowWriter where
  | account (writer : Writer)
  | createStudent (student : StudentCreate)
  | updateStudent (update : StudentUpdate) (studentId : Id)
  | linkStudentToUser (studentId userId : Id)
  | deleteStudent (studentId : Id)

def RowWriter.program (libraries : Libraries) : RowWriter → Py Unit
  | .account writer => writer.program libraries
  | .createStudent student => do
      let _ ← Crud.Student.createStudent student
  | .updateStudent update studentId => do
      let _ ← Crud.Student.updateStudent update studentId
  | .linkStudentToUser studentId userId => do
      let _ ← Crud.Student.linkStudentToUser studentId userId
  | .deleteStudent studentId => do
      let _ ← Crud.Student.deleteStudent studentId

/-- The payload has passed its schema. -/
def RowWriter.Admitted (emailStr : String → Bool) : RowWriter → Prop
  | .account writer => writerAdmits emailStr writer = true
  | .createStudent student => studentCreate emailStr student = true
  | .updateStudent update _ => studentUpdate emailStr update = true
  | .linkStudentToUser _ _ => True
  | .deleteStudent _ => True

def RowWriter.Loaded (tables : Tables) : RowWriter → Prop
  | .account writer => writer.Loaded tables
  | _ => True

/-- The CLI is given an email that `EmailStr` would accept. -/
def RowWriter.CliEmail (emailStr : String → Bool) : RowWriter → Prop
  | .account (.createAdmin environment arguments) =>
      ∀ account, resolve environment arguments = some account →
        emailStr account.email = true
  | _ => True

/-- The calls that a run may make. -/
def writes (emailStr : String → Bool) (libraries : Libraries)
    (allowed : RowWriter → Prop) (store : Store)
    (program : Prog university (Except Exc Unit)) : Prop :=
  ∃ writer : RowWriter, writer.Admitted emailStr ∧ allowed writer ∧
    writer.Loaded (committed store) ∧
    program = (writer.program libraries).run

/-! ## The invariant -/

/-- Every stored row passes its response model. -/
structure Readable (emailStr : String → Bool) (tables : Tables) : Prop where
  users : ∀ row ∈ tables.users.rows, userResponse emailStr row = true
  students : ∀ row ∈ tables.students.rows, studentResponse emailStr row = true

section Step

variable {emailStr : String → Bool} {libraries : Libraries}
  {before after : Tables}

theorem readable_created {username email password : String} {role : UserRole}
    (readable : Readable emailStr before)
    (created : Created libraries username email role password before after)
    (valid : emailStr email = true) : Readable emailStr after := by
  obtain ⟨new, salt, fresh, _, isEmail, _, _, _, rfl⟩ := created
  refine ⟨?_, readable.students⟩
  intro row member
  rcases (Table.mem_insert fresh).mp member with old | rfl
  · exact readable.users row old
  · unfold userResponse
    rw [isEmail]
    exact valid

/-- An assigned email is valid and stays so in lower case. -/
theorem userChange_readable (rules : EmailRules emailStr libraries.lower)
    {user row : User} {username email : Option String}
    {role : Option UserRole} {passwordHash : Option String}
    (stored : emailStr row.email = true)
    (valid : email.all emailStr = true) :
    emailStr ((userChange libraries user username email role
      passwordHash).apply row).email = true := by
  change emailStr ((email.bind fun email =>
    dirty user.email (libraries.lower email)).getD row.email) = true
  cases email with
  | none => exact stored
  | some email =>
      simp only [Option.bind_some]
      unfold dirty
      split
      · exact stored
      · exact rules.lowers email valid

theorem readable_updated (rules : EmailRules emailStr libraries.lower)
    {userId : Id} {username email : Option String} {role : Option UserRole}
    {password : Option String} (readable : Readable emailStr before)
    (updated : Updated libraries userId username email role password before
      after) (valid : email.all emailStr = true) :
    Readable emailStr after := by
  obtain ⟨user, salt, found, change, rfl, rfl⟩ := updated
  refine ⟨?_, readable.students⟩
  refine Table.forall_updateWhere (UserChange.apply_id _) readable.users ?_
  intro row member _
  exact userChange_readable rules (readable.users row member) valid

theorem unlinkChange_readable {version : Nat} {row : Student}
    (stored : studentResponse emailStr row = true) :
    studentResponse emailStr (unlinkChange.apply version row) = true := stored

theorem readable_erased {userId : Id} (readable : Readable emailStr before)
    (erased : Erased userId before after) : Readable emailStr after := by
  obtain ⟨dependent, flushed⟩ := erased
  obtain ⟨unlinked, unlinks, rfl⟩ := flushDeleteUser_ok flushed
  constructor
  · intro row member
    exact readable.users row (Table.mem_erase.mp member).1
  · change ∀ row ∈ unlinked.students.rows, _
    rcases unlinkStudent_ok unlinks with
      ⟨_, rfl⟩ | ⟨student, _, _, _, _, rfl⟩
    · exact readable.students
    · refine Table.forall_updateWhere (StudentChange.apply_id _ _)
        readable.students ?_
      intro row member _
      exact unlinkChange_readable (readable.students row member)

theorem readable_enlisted {student : StudentCreate}
    (readable : Readable emailStr before)
    (enlisted : Enlisted student before after)
    (admitted : studentCreate emailStr student = true) :
    Readable emailStr after := by
  obtain ⟨choice, fresh, rfl⟩ := enlisted
  refine ⟨readable.users, ?_⟩
  intro row member
  rcases (Table.mem_insert fresh).mp member with old | rfl
  · exact readable.students row old
  · exact admitted

theorem readable_saved {student : Student} {change : StudentChange}
    (readable : Readable emailStr before)
    (saved : Saved student change before after)
    (applies : ∀ row version, studentResponse emailStr row = true →
      studentResponse emailStr (change.apply version row) = true) :
    Readable emailStr after := by
  rcases saved with ⟨_, rfl⟩ | ⟨_, rfl⟩
  · exact readable
  · refine ⟨readable.users, ?_⟩
    refine Table.forall_updateWhere (StudentChange.apply_id _ _)
        readable.students ?_
    intro row member _
    exact applies row _ (readable.students row member)

theorem all_dirty {α : Type} [DecidableEq α] {accepts : α → Bool}
    {loaded : α} {assigned : Option α} (valid : assigned.all accepts = true) :
    (assigned.bind (dirty loaded)).all accepts = true := by
  cases assigned with
  | none => rfl
  | some value =>
      simp only [Option.bind_some]
      unfold dirty
      split
      · rfl
      · exact valid

theorem getD_of_all {α : Type} {accepts : α → Bool} {assigned : Option α}
    {stored : α} (valid : assigned.all accepts = true)
    (isStored : accepts stored = true) :
    accepts (assigned.getD stored) = true := by
  cases assigned with
  | none => exact isStored
  | some value => exact valid

theorem studentChange_readable {student row : Student} {version : Nat}
    {update : StudentUpdate} (admitted : studentUpdate emailStr update = true)
    (stored : studentResponse emailStr row = true) :
    studentResponse emailStr
      ((studentChange student update).apply version row) = true := by
  simp only [studentUpdate, Bool.and_eq_true] at admitted
  simp only [studentResponse, studentBase, Bool.and_eq_true] at stored ⊢
  obtain ⟨⟨⟨⟨name, department⟩, age⟩, email⟩, _⟩ := admitted
  obtain ⟨⟨⟨hadName, hadDepartment⟩, hadAge⟩, hadEmail⟩ := stored
  refine ⟨⟨⟨getD_of_all (all_dirty name) hadName,
    getD_of_all (all_dirty department) hadDepartment⟩, ?_⟩,
    getD_of_all (all_dirty email) hadEmail⟩
  have valid : (update.age.bind fun age => dirty student.age (some age)).all
      (fun age => age.all ageField) = true := by
    cases given : update.age with
    | none => rfl
    | some value =>
        rw [given] at age
        simp only [Option.bind_some]
        unfold dirty
        split
        · rfl
        · exact age
  have last : (fun age : Option Int => age.all ageField)
      ((update.age.bind fun age => dirty student.age (some age)).getD
        row.age) = true := getD_of_all valid hadAge
  exact last

theorem readable_account (rules : EmailRules emailStr libraries.lower)
    {writer : Writer} (readable : Readable emailStr before)
    (admitted : writerAdmits emailStr writer = true)
    (cli : (RowWriter.account writer).CliEmail emailStr)
    (effect : writer.Effect libraries before after) :
    Readable emailStr after := by
  cases writer with
  | registerUser user =>
      simp only [writerAdmits, userRegister, Bool.and_eq_true] at admitted
      exact readable_created readable effect (rules.lowers _ admitted.1.2)
  | createUser user =>
      simp only [writerAdmits, userCreate, Bool.and_eq_true] at admitted
      exact readable_created readable effect (rules.lowers _ admitted.1.2)
  | updateUser update userId =>
      simp only [writerAdmits, userUpdate, Bool.and_eq_true] at admitted
      exact readable_updated rules readable effect admitted.1.2
  | updateUserMe update currentUser =>
      simp only [writerAdmits, userSelfUpdate, Bool.and_eq_true] at admitted
      exact readable_updated rules readable effect admitted.1.2
  | deleteUser userId => exact readable_erased readable effect
  | createAdmin environment arguments =>
      obtain ⟨account, resolved, created⟩ := effect
      exact readable_created readable created (cli account resolved)

end Step

section Runs

variable {emailStr : String → Bool} {libraries : Libraries}
  {condition : Condition university} {me : Nat} {store : Store}

/-- A write that keeps the rows readable, whether it returns or fails. -/
theorem ensures_readable {α : Type} {program : Py α}
    (readable : Readable emailStr (committed store))
    {done : Tables → Prop} (keeps : ∀ after, done after →
      Readable emailStr after)
    (yields : Yields condition me program (fun _ later => done (committed later))
      (fun _ later => FailedWrite condition done store later) store) :
    Yields condition me
      (do
        let _ ← program
        return ())
      (fun _ later => Readable emailStr (committed later))
      (fun _ later => Readable emailStr (committed later)) store := by
  refine yields_bind (yields_mono yields ?_ ?_)
  · intro _ later holds
    exact yields_pure (keeps _ holds)
  · rintro _ later ⟨_, same | ⟨_, holds⟩⟩
    · rw [same]
      exact readable
    · exact keeps _ holds

/-- One step: whatever a writer does, the rows stay readable. -/
theorem yields_readable (rules : EmailRules emailStr libraries.lower)
    (writer : RowWriter) (admitted : writer.Admitted emailStr)
    (cli : writer.CliEmail emailStr) (loaded : writer.Loaded (committed store))
    (readable : Readable emailStr (committed store)) :
    Yields condition me (writer.program libraries)
      (fun _ later => Readable emailStr (committed later))
      (fun _ later => Readable emailStr (committed later)) store := by
  cases writer with
  | account writer =>
      refine yields_mono (yields_writer writer loaded) ?_ ?_
      · rintro _ later (effect | ⟨same, _⟩)
        · exact readable_account rules readable admitted cli effect
        · rw [same]
          exact readable
      · rintro _ later (same | effect)
        · rw [same]
          exact readable
        · exact readable_account rules readable admitted cli effect
  | createStudent student =>
      exact ensures_readable readable
        (fun _ enlisted => readable_enlisted readable enlisted admitted)
        (yields_mono yields_createStudent (fun _ _ done => done.2)
          fun _ _ failed => failed)
  | updateStudent update studentId =>
      refine ensures_readable readable ?_
        (yields_mono yields_updateStudent (fun _ _ done => done.2)
          fun _ _ failed => failed)
      rintro after ⟨student, _, saved⟩
      exact readable_saved readable saved fun _ _ stored =>
        studentChange_readable admitted stored
  | linkStudentToUser studentId userId =>
      refine ensures_readable readable ?_
        (yields_mono yields_linkStudentToUser (fun _ _ done => done.2)
          fun _ _ failed => failed)
      rintro after ⟨student, _, saved⟩
      exact readable_saved readable saved fun _ _ stored => stored
  | deleteStudent studentId =>
      refine ensures_readable readable ?_
        (yields_mono yields_deleteStudent (fun _ _ done => done.2)
          fun _ _ failed => failed)
      rintro after rfl
      exact ⟨readable.users, fun row member =>
        readable.students row (Table.mem_erase.mp member).1⟩

end Runs

/-! ## The readers -/

/-- `GET /users/`. -/
def getUsers (emailStr : String → Bool) (skip limit : Nat) :
    Py (List User) := do
  let rows ← readUsers skip limit
  respond (userResponse emailStr) rows

/-- `GET /users/{id}`; `GET /users/me` responds with the row it is given. -/
def getUser (emailStr : String → Bool) (userId : Id) : Py (List User) := do
  let row ← readUser userId
  respond (userResponse emailStr) [row]

/-- `GET /students/`. -/
def getStudents (emailStr : String → Bool) (user : User)
    (skip limit : Nat) : Py (List Student) := do
  let rows ← readStudents user skip limit
  respond (studentResponse emailStr) rows

section Reading

variable {emailStr : String → Bool} {me : Nat} {store : Store} {ρ α : Type}

theorem respond_accepts {accepts : ρ → Bool} {rows : List ρ}
    (all : ∀ row ∈ rows, accepts row = true) :
    respond accepts rows = pure rows := by
  simp [respond, List.all_eq_true.mpr all]

theorem mem_page {key : ρ → Id} {skip limit : Nat} {rows : List ρ} {row : ρ}
    (member : row ∈ page key skip limit rows) : row ∈ rows :=
  List.mem_mergeSort.mp (List.mem_of_mem_drop (List.mem_of_mem_take member))

/-- The exception is not one of response validation. -/
def Validated (exc : Exc) (_ : Store) : Prop := exc ≠ responseValidationError

theorem finishes_respond {accepts : ρ → Bool} {rows : List ρ}
    (all : ∀ row ∈ rows, accepts row = true) :
    Finishes callSucceeds me (respond accepts rows) (fun _ _ => True)
      Validated store := by
  rw [respond_accepts all]
  exact finishes_pure _ trivial

theorem finishes_getUsers (readable : Readable emailStr (committed store))
    (skip limit : Nat) :
    Finishes callSucceeds me (getUsers emailStr skip limit)
      (fun _ _ => True) Validated store :=
  finishes_bind (finishes_select (fun _ => finishes_respond fun row member =>
    readable.users row (mem_page member)) fun _ => nofun)

theorem finishes_getUser (readable : Readable emailStr (committed store))
    (userId : Id) :
    Finishes callSucceeds me (getUser emailStr userId)
      (fun _ _ => True) Validated store := by
  refine finishes_bind (finishes_bind (finishes_select (fun _ => ?_)
    fun _ => nofun))
  cases found : store.db.tables.users.find? userId with
  | none => exact finishes_throw _ nofun
  | some row =>
      refine finishes_pure row (finishes_respond fun other member => ?_)
      rw [List.mem_singleton.mp member]
      exact readable.users row (Table.mem_of_find? found)

theorem finishes_getStudents (readable : Readable emailStr (committed store))
    (user : User) (skip limit : Nat) :
    Finishes callSucceeds me (getStudents emailStr user skip limit)
      (fun _ _ => True) Validated store := by
  refine finishes_bind ?_
  unfold readStudents
  split
  · exact finishes_bind (finishes_throw _ nofun)
  · refine finishes_select (fun _ => finishes_respond fun row member => ?_)
      fun _ => nofun
    exact readable.students row (List.mem_of_mem_filter (mem_page member))

end Reading

/-! ## The exact condition -/

theorem legacyEmail_rejected {emailStr : String → Bool}
    {lower : String → String} (rules : EmailRules emailStr lower)
    (studentId : Id) : emailStr (legacyEmail studentId) = false := by
  have split : legacyEmail studentId =
      ("legacy-student-" ++ studentId.repr ++ "@invalid") ++ ".local" := by
    rw [String.append_assoc]
    rfl
  rw [split]
  exact rules.noLocal _

theorem backfill_rejected {emailStr : String → Bool}
    {lower : String → String} (rules : EmailRules emailStr lower)
    (legacy : LegacyStudent) :
    studentResponse emailStr (backfill legacy) = false := by
  simp [studentResponse, studentBase, backfill, legacyEmail_rejected rules]

theorem created_readable {emailStr : String → Bool} {libraries : Libraries}
    {username email password : String} {role : UserRole}
    {before after : Tables} (readable : Readable emailStr before)
    (created : Created libraries username email role password before after) :
    Readable emailStr after ↔ emailStr email = true := by
  constructor
  · intro readableAfter
    obtain ⟨new, salt, fresh, _, isEmail, _, _, _, rfl⟩ := created
    have accepted := readableAfter.users new
      ((Table.mem_insert fresh).mpr (.inr rfl))
    unfold userResponse at accepted
    rw [isEmail] at accepted
    exact accepted
  · exact readable_created readable created

/-- The readers accept every row exactly as long as no student was back-filled
and no administrator was created with an email `EmailStr` rejects: the revision
leaves readable rows only where it found no student, an administrator leaves
them readable exactly when the email is accepted, and from there every run
does. -/
theorem readers_accept_written_rows (emailStr : String → Bool)
    (libraries : Libraries) (rules : EmailRules emailStr libraries.lower)
    (legacy : List LegacyStudent) (store : Store)
    (migrated : Migrated legacy store) :
    (Readable emailStr (committed store) ↔ legacy = []) ∧
    (∀ environment arguments account,
      resolve environment arguments = some account →
      ∀ before after, Readable emailStr before →
        (Writer.createAdmin environment arguments).Effect libraries before
          after →
        (Readable emailStr after ↔ emailStr account.email = true)) ∧
    (legacy = [] → ∀ last,
      Sequence anything
        (writes emailStr libraries fun writer => writer.CliEmail emailStr)
        store last →
      Readable emailStr (committed last) ∧
      ∀ me skip limit userId user,
        Finishes callSucceeds me (getUsers emailStr skip limit)
          (fun _ _ => True) Validated last ∧
        Finishes callSucceeds me (getUser emailStr userId)
          (fun _ _ => True) Validated last ∧
        Finishes callSucceeds me (getStudents emailStr user skip limit)
          (fun _ _ => True) Validated last) := by
  have initially : Readable emailStr (committed store) ↔ legacy = [] := by
    constructor
    · intro readable
      by_contra some_
      obtain ⟨student, rest, rfl⟩ := List.exists_cons_of_ne_nil some_
      have accepted := readable.students (backfill student) (by
        rw [migrated.students]
        exact List.mem_cons_self ..)
      rw [backfill_rejected rules] at accepted
      cases accepted
    · rintro rfl
      constructor
      · rw [migrated.users]
        exact List.forall_mem_nil _
      · rw [migrated.students]
        exact List.forall_mem_nil _
  refine ⟨initially, ?_, ?_⟩
  · rintro environment arguments account resolved before after readable
      ⟨other, resolvedToo, created⟩
    rw [resolved] at resolvedToo
    cases resolvedToo
    exact created_readable readable created
  · intro none last run
    have readable := run.invariant
      (fun store => Readable emailStr (committed store))
      (initially.mpr none) ?_
    · exact ⟨readable, fun me skip limit userId user =>
        ⟨finishes_getUsers readable skip limit,
          finishes_getUser readable userId,
          finishes_getStudents readable user skip limit⟩⟩
    · rintro middle me _ readable ⟨writer, admitted, cli, loaded, rfl⟩
      refine ensures_mono _ middle
        (yields_readable rules writer admitted cli loaded readable) ?_
      intro answer later holds
      cases answer with
      | ok done => exact holds
      | error exc => exact holds

/-! ## Rows that readers reject -/

theorem sample_rules : EmailRules sampleEmailStr sampleLibraries.lower where
  needsAt text absent := by
    simp [sampleEmailStr, absent]
  noLocal text := by
    have suffix : ".local".toList.isSuffixOf (text ++ ".local").toList =
        true := by
      rw [String.toList_append, List.isSuffixOf_iff_suffix]
      exact List.suffix_append ..
    simp only [sampleEmailStr, suffix, Bool.not_true, Bool.and_false,
      Bool.false_and]
  noInvalid text := by
    have suffix : ".invalid".toList.isSuffixOf (text ++ ".invalid").toList =
        true := by
      rw [String.toList_append, List.isSuffixOf_iff_suffix]
      exact List.suffix_append ..
    simp only [sampleEmailStr, suffix, Bool.not_true, Bool.and_false]
  lowers _ accepted := accepted

def bootstrap (email : String) : RowWriter :=
  .account (.createAdmin {} ⟨some email, some "root", some "a password"⟩)

def blankStore : Store := {}

/-- The store in which the CLI leaves an empty database. -/
def bootstrapped (email : String) : Store :=
  ((((bootstrap email).program sampleLibraries).run.solo 0
    (fun _ => { newId := 1 }) blankStore).map fun outcome =>
      outcome.2.1).getD blankStore

theorem bootstrapped_sequence (email : String)
    (allowed : RowWriter → Prop) (isAllowed : allowed (bootstrap email))
    (returns : (((bootstrap email).program sampleLibraries).run.solo 0
      (fun _ => { newId := 1 }) blankStore).isSome = true) :
    Sequence (S := university) anything
      (writes sampleEmailStr sampleLibraries allowed)
      blankStore (bootstrapped email) := by
  obtain ⟨⟨answer, last, left⟩, runs⟩ := Option.isSome_iff_exists.mp returns
  have isLast : bootstrapped email = last := by
    simp [bootstrapped, runs]
  rw [isLast]
  have start : Sequence (S := university) anything
      (writes sampleEmailStr sampleLibraries allowed) blankStore blankStore :=
    Sequence.refl _
  exact start.next 0 _ answer
    ⟨bootstrap email, rfl, isAllowed, trivial, rfl⟩
    (evaluates_of_solo _ _ (fun _ _ _ => trivial) runs)

theorem blank_migrated : Migrated [] blankStore := ⟨rfl, rfl⟩

theorem readers_accept_written_rows_admin :
    Readable sampleEmailStr (committed (bootstrapped "root@uni.edu")) := by
  have sequence := bootstrapped_sequence "root@uni.edu"
    (fun writer => writer.CliEmail sampleEmailStr) (by
      intro account resolved
      cases resolved
      decide +kernel) (by decide +kernel)
  exact ((readers_accept_written_rows sampleEmailStr sampleLibraries
    sample_rules [] blankStore blank_migrated).2.2 rfl _ sequence).1

def legacyTables : Tables :=
  { sampleTables with
    users := .empty
    students := ⟨[backfill ⟨1, "Mona", 1, 0⟩], by decide⟩ }

def legacyStore : Store := { db := ⟨legacyTables, by decide +kernel⟩ }

/-- A back-filled student, and an administrator created with an email that is
none: each is a stored row that its response model rejects, and the list of
accounts fails as a whole. -/
theorem written_rows_rejected :
    EmailRules sampleEmailStr sampleLibraries.lower ∧
    (Migrated [⟨1, "Mona", 1, 0⟩] legacyStore ∧
      ∃ row ∈ (committed legacyStore).students.rows,
        studentResponse sampleEmailStr row = false) ∧
    Sequence (S := university) anything
      (writes sampleEmailStr sampleLibraries fun _ => True) blankStore
      (bootstrapped "root") ∧
    (∃ row ∈ (committed (bootstrapped "root")).users.rows,
      userResponse sampleEmailStr row = false) ∧
    Finishes callSucceeds 0 (getUsers sampleEmailStr 0 100)
      (fun _ _ => False) (fun exc _ => exc = responseValidationError)
      (bootstrapped "root") := by
  refine ⟨sample_rules, ⟨⟨rfl, rfl⟩, by decide +kernel⟩,
    bootstrapped_sequence "root" _ trivial (by decide +kernel),
    by decide +kernel, ?_⟩
  have rejected : (page User.id 0 100
      (bootstrapped "root").db.tables.users.rows).all
        (userResponse sampleEmailStr) = false := by decide +kernel
  refine finishes_bind (finishes_transaction ?_ ?_)
  · intro choice rows next _ body
    cases body
    unfold respond
    rw [if_neg (by simp [rejected])]
    exact finishes_throw _ rfl
  · intro choice exc _ body
    cases body

end SystemUni.Schemas.Readers
