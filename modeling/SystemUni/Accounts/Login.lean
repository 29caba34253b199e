import SystemUni.Accounts.Writers
import SystemUni.Interleaving.Alone

/-!
# Every account can log in

The writers one after another, with a memory of the password each account was
given last.  Login looks an email up in its lower-cased form, so it finds
exactly the accounts whose stored email is lower-cased.
-/

set_option autoImplicit false

namespace SystemUni.Accounts.Login

open Interleaving Relational
open SystemUni.Runtime.Errors
open SystemUni.Runtime.External
open SystemUni.Runtime.Statements
open SystemUni.Runtime.Rules
open SystemUni.Models.Rows
open SystemUni.Models.Changes
open SystemUni.Models.Schema
open SystemUni.Security.Auth
open SystemUni.Crud.User
open SystemUni.Accounts.Writers
open SystemUni.Cli

/-! ## The libraries -/

/-- A hash verifies exactly the password it was made of. -/
def VerifiesExactly (libraries : Libraries) : Prop :=
  ∀ salt password other,
    libraries.verifyPassword other (libraries.hashPassword salt password) =
      .ok (decide (other = password))

/-- A token decodes to its claims until it expires; `exp` is a whole number of
seconds. -/
def DecodesUnexpired (libraries : Libraries) : Prop :=
  ∀ (now : Time) (sub : String) (ver : Nat) (exp : Time), now < ⌊exp⌋ →
    libraries.decodeToken now (libraries.encodeToken sub ver exp) =
      some ⟨some sub, some (.int ver)⟩

def LowerIdempotent (libraries : Libraries) : Prop :=
  ∀ text, libraries.lower (libraries.lower text) = libraries.lower text

/-! ## Passwords -/

def passwordOf : Writer → Option String
  | .registerUser user => some user.password
  | .createUser user => some user.password
  | .updateUser userUpdate _ => userUpdate.password
  | .updateUserMe userUpdate _ => userUpdate.password
  | .deleteUser _ => none
  | .createAdmin environment arguments =>
      (resolve environment arguments).map fun account => account.password

/-- A new account has the password it was created with.  An update with a
password changes it, if it returned or if its commit took effect although the
answer was lost. -/
def remember (writer : Writer) (answer : Except Exc Unit)
    (before after : Tables) (passwords : Id → Option String) (userId : Id) :
    Option String :=
  if before.users.find? userId = none ∧ after.users.find? userId ≠ none then
    passwordOf writer
  else if writer.target = some userId ∧ (passwordOf writer).isSome ∧
      (answer.isOk ∨ after.users.rows ≠ before.users.rows) then
    passwordOf writer
  else passwords userId

/-- The writers have been called one after another, from a database without
accounts. -/
inductive Reached (libraries : Libraries) (allowed : Writer → Prop) :
    Store → (Id → Option String) → Prop where
  | initial (store : Store) (noAccounts : (committed store).users = .empty) :
      Reached libraries allowed store fun _ => none
  | next {store last : Store} {passwords : Id → Option String} (me : Nat)
      (writer : Writer) (answer : Except Exc Unit)
      (before : Reached libraries allowed store passwords)
      (isAllowed : allowed writer)
      (loaded : writer.Loaded (committed store))
      (runs : Evaluates anything me (writer.program libraries).run store answer
        last) :
      Reached libraries allowed last
        (remember writer answer (committed store) (committed last) passwords)

/-! ## The invariant -/

/-- The account's email is lower-cased and its hash is of its password. -/
def Known (libraries : Libraries) (passwords : Id → Option String)
    (row : User) : Prop :=
  libraries.lower row.email = row.email ∧
    ∃ salt password, passwords row.id = some password ∧
      row.passwordHash = libraries.hashPassword salt password

/-- The CLI stores the email as it is given. -/
def StoresLower (libraries : Libraries) : Writer → Prop
  | .createAdmin environment arguments =>
      ∀ account, resolve environment arguments = some account →
        libraries.lower account.email = account.email
  | _ => True

section Step

variable {libraries : Libraries} {writer : Writer} {answer : Except Exc Unit}
  {before after : Tables} {passwords : Id → Option String}

theorem remember_of_old {userId : Id} {row : User}
    (found : before.users.find? userId = some row)
    (other : writer.target ≠ some userId ∨ passwordOf writer = none) :
    remember writer answer before after passwords userId =
      passwords userId := by
  unfold remember
  rw [if_neg (by simp [found]), if_neg]
  rintro ⟨target, gives, _⟩
  rcases other with different | silent
  · exact different target
  · simp [silent] at gives

theorem dirty_getD {α : Type} [DecidableEq α] (loaded assigned : α) :
    (dirty loaded assigned).getD loaded = assigned := by
  unfold dirty
  split
  · rename_i same
    exact same
  · rfl

theorem userChange_email (user : User) (username email : Option String)
    (role : Option UserRole) (passwordHash : Option String) :
    ((userChange libraries user username email role passwordHash).apply
      user).email = (email.map libraries.lower).getD user.email := by
  cases email with
  | none => rfl
  | some email => exact dirty_getD user.email (libraries.lower email)

theorem userChange_passwordHash (user : User)
    (username email : Option String) (role : Option UserRole)
    (passwordHash : Option String) :
    ((userChange libraries user username email role passwordHash).apply
      user).passwordHash = passwordHash.getD user.passwordHash := by
  cases passwordHash with
  | none => rfl
  | some passwordHash => exact dirty_getD user.passwordHash passwordHash

theorem known_same
    (known : ∀ row ∈ before.users.rows, Known libraries passwords row)
    (idle : answer.isOk = true → writer.target = none) :
    ∀ row ∈ before.users.rows,
      Known libraries (remember writer answer before before passwords) row := by
  intro row member
  obtain ⟨lower, salt, password, remembered, hashed⟩ := known row member
  refine ⟨lower, salt, password, ?_, hashed⟩
  unfold remember
  rw [if_neg (by tauto), if_neg]
  · exact remembered
  · rintro ⟨target, _, answered | changed⟩
    · rw [idle answered] at target
      cases target
    · exact changed rfl

theorem known_created {username email password : String} {role : UserRole}
    (known : ∀ row ∈ before.users.rows, Known libraries passwords row)
    (created : Created libraries username email role password before after)
    (lower : libraries.lower email = email)
    (gives : passwordOf writer = some password)
    (target : writer.target = none) :
    ∀ row ∈ after.users.rows,
      Known libraries (remember writer answer before after passwords) row := by
  obtain ⟨new, salt, fresh, _, isEmail, _, hashed, _, rfl⟩ := created
  intro row member
  rcases (Table.mem_insert fresh).mp member with old | rfl
  · obtain ⟨lowerOld, oldSalt, oldPassword, remembered, oldHashed⟩ :=
      known row old
    refine ⟨lowerOld, oldSalt, oldPassword, ?_, oldHashed⟩
    rw [remember_of_old (Table.find?_of_mem old) (.inl (by simp [target]))]
    exact remembered
  · have present : (before.users.insert row fresh).find? row.id ≠ none := by
      simp [Table.find?_insert]
    refine ⟨by rw [isEmail]; exact lower, salt, password, ?_, hashed⟩
    exact (if_pos ⟨fresh, present⟩).trans gives

/-- A password that is set shows in the version of the tokens. -/
theorem rows_ne_of_password {userId : Id} {username email : Option String}
    {role : Option UserRole} {password : String}
    (updated : Updated libraries userId username email role (some password)
      before after) : after.users.rows ≠ before.users.rows := by
  obtain ⟨user, salt, found, change, isChange, rfl⟩ := updated
  intro same
  have tables := Table.ext same
  have changed := congrArg (fun users : Table User.id => users.find? userId)
    tables
  simp only at changed
  rw [Table.find?_updateWhere, found] at changed
  have isUser := Table.key_of_find? found
  have row := Option.some.inj changed
  simp only [isUser, decide_true, if_true] at row
  have version := congrArg User.tokenVersion row
  rw [isChange] at version
  simp [UserChange.apply, userChange] at version

theorem known_updated (idempotent : LowerIdempotent libraries) {userId : Id}
    {username email : Option String} {role : Option UserRole}
    {password : Option String}
    (known : ∀ row ∈ before.users.rows, Known libraries passwords row)
    (updated : Updated libraries userId username email role password before
      after)
    (gives : passwordOf writer = password)
    (target : writer.target = some userId) :
    ∀ row ∈ after.users.rows,
      Known libraries (remember writer answer before after passwords) row := by
  have moved := updated
  obtain ⟨user, salt, found, change, isChange, rfl⟩ := updated
  intro row member
  obtain ⟨old, oldMember, isRow⟩ :=
    (Table.mem_updateWhere change.apply_id).mp member
  obtain ⟨lowerOld, oldSalt, oldPassword, remembered, oldHashed⟩ :=
    known old oldMember
  have oldFound := Table.find?_of_mem oldMember
  by_cases mine : old.id = userId
  · have isUser : old = user := by
      rw [mine, found] at oldFound
      exact (Option.some.inj oldFound).symm
    subst isUser
    rw [if_pos (by simpa using mine)] at isRow
    have sameId : row.id = old.id := by
      rw [← isRow]
      rfl
    have isEmail : row.email = (email.map libraries.lower).getD old.email := by
      rw [← isRow, isChange]
      exact userChange_email old username email role _
    have isHash : row.passwordHash =
        (password.map (libraries.hashPassword salt)).getD old.passwordHash := by
      rw [← isRow, isChange]
      exact userChange_passwordHash old username email role _
    have lower : libraries.lower row.email = row.email := by
      rw [isEmail]
      cases email with
      | none => exact lowerOld
      | some email => exact idempotent email
    refine ⟨lower, ?_⟩
    rw [sameId]
    cases password with
    | none =>
        refine ⟨oldSalt, oldPassword, ?_, isHash.trans oldHashed⟩
        rw [remember_of_old oldFound (.inr gives)]
        exact remembered
    | some password =>
        refine ⟨salt, password, ?_, isHash⟩
        unfold remember
        rw [if_neg (by simp [oldFound]), if_pos]
        · exact gives
        · exact ⟨by rw [target, mine], by simp [gives],
            .inr (rows_ne_of_password moved)⟩
  · rw [if_neg (by simpa using mine)] at isRow
    subst isRow
    refine ⟨lowerOld, oldSalt, oldPassword, ?_, oldHashed⟩
    rw [remember_of_old oldFound (.inl ?_)]
    · exact remembered
    · rw [target]
      intro same
      exact mine (Option.some.inj same).symm

theorem known_erased {userId : Id}
    (known : ∀ row ∈ before.users.rows, Known libraries passwords row)
    (erased : Erased userId before after) (target : writer.target = none) :
    ∀ row ∈ after.users.rows,
      Known libraries (remember writer answer before after passwords) row := by
  obtain ⟨dependent, flushed⟩ := erased
  obtain ⟨unlinked, _, rfl⟩ := flushDeleteUser_ok flushed
  intro row member
  have old := (Table.mem_erase.mp member).1
  obtain ⟨lower, salt, password, remembered, hashed⟩ := known row old
  refine ⟨lower, salt, password, ?_, hashed⟩
  rw [remember_of_old (Table.find?_of_mem old) (.inl (by simp [target]))]
  exact remembered

theorem known_effect (idempotent : LowerIdempotent libraries)
    (allowed : StoresLower libraries writer)
    (known : ∀ row ∈ before.users.rows, Known libraries passwords row)
    (effect : writer.Effect libraries before after) :
    ∀ row ∈ after.users.rows,
      Known libraries (remember writer answer before after passwords) row := by
  cases writer with
  | registerUser user =>
      exact known_created known effect (idempotent user.email) rfl rfl
  | createUser user =>
      exact known_created known effect (idempotent user.email) rfl rfl
  | updateUser userUpdate userId =>
      exact known_updated idempotent known effect rfl rfl
  | updateUserMe userUpdate currentUser =>
      exact known_updated idempotent known effect rfl rfl
  | deleteUser userId => exact known_erased known effect rfl
  | createAdmin environment arguments =>
      obtain ⟨account, resolved, created⟩ := effect
      refine known_created known created (allowed account resolved) ?_ rfl
      simp [passwordOf, resolved]

end Step

theorem reached_known {libraries : Libraries}
    (idempotent : LowerIdempotent libraries) {store : Store}
    {passwords : Id → Option String}
    (reached : Reached libraries (StoresLower libraries) store passwords) :
    ∀ row ∈ (committed store).users.rows, Known libraries passwords row := by
  induction reached with
  | initial store noAccounts =>
      rw [noAccounts]
      exact List.forall_mem_nil _
  | @next store last passwords me writer answer before allowed loaded runs
      known =>
      have ended := runs.ensured (yields_writer writer loaded)
      cases answer with
      | ok done =>
          rcases ended with effect | ⟨same, idle⟩
          · exact known_effect idempotent allowed known effect
          · rw [same]
            exact known_same known fun _ => idle
      | error exc =>
          rcases ended with same | effect
          · rw [same]
            exact known_same known nofun
          · exact known_effect idempotent allowed known effect

/-! ## Logging in -/

def AtTime (now : Time) (choice : Choice) : Prop :=
  choice.call = .done ∧ choice.now = now

instance (now : Time) : Answered (AtTime now) :=
  ⟨fun _ atTime => atTime.1⟩

theorem find?_email {store : Store} {row : User}
    (member : row ∈ (committed store).users.rows) :
    (store.db.tables.users.rows.find? fun other =>
      decide (other.email = row.email)) = some row := by
  have exists_ : (store.db.tables.users.rows.find? fun other =>
      decide (other.email = row.email)).isSome = true :=
    List.find?_isSome.mpr ⟨row, member, by simp⟩
  obtain ⟨other, found⟩ := Option.isSome_iff_exists.mp exists_
  have same : other.email = row.email := by simpa using List.find?_some found
  have isRow : other = row :=
    Table.Unique.eq_of_value store.db.admissible.user.2
      (List.mem_of_find?_eq_some found) member rfl (congrArg some same.symm)
  rw [found, isRow]

theorem finishes_loginUser {libraries : Libraries} {settings : Settings}
    (verifies : VerifiesExactly libraries) {store : Store} {row : User}
    (member : row ∈ (committed store).users.rows) {salt password : String}
    (hashed : row.passwordHash = libraries.hashPassword salt password)
    {credential : String} (asks : libraries.lower credential = row.email)
    (me : Nat) (now : Time) :
    Finishes (AtTime now) me
      (loginUser libraries settings ⟨credential, password⟩)
      (fun token _ => token =
        accessToken libraries settings now row.id row.tokenVersion)
      (fun _ _ => False) store := by
  refine finishes_bind (finishes_query ?_)
  have verified : libraries.verifyPassword password row.passwordHash =
      .ok true := by
    rw [hashed, verifies, decide_eq_true rfl]
  simp only [asks, find?_email member, verified]
  intro choice atTime
  exact ⟨rfl, by rw [← atTime.2]; rfl⟩

/-- The clock reads less than the token's expiry. -/
def Before (expires : Time) (choice : Choice) : Prop :=
  choice.call = .done ∧ choice.now < ⌊expires⌋

instance (expires : Time) : Answered (Before expires) :=
  ⟨fun _ before => before.1⟩

theorem finishes_getCurrentUser {libraries : Libraries} {settings : Settings}
    (decodes : DecodesUnexpired libraries) {store : Store} {row : User}
    (found : (committed store).users.find? row.id = some row) (me : Nat)
    (minted : Time) :
    Finishes
      (Before (minted + 60 * settings.accessTokenExpireMinutes)) me
      (getCurrentUser libraries
        (some (accessToken libraries settings minted row.id
          row.tokenVersion)))
      (fun user _ => user = row) (fun _ _ => False) store := by
  change Finishes _ me (now >>= fun time => checkToken libraries time _) _ _
    store
  refine finishes_bind ?_
  intro choice before
  refine ⟨rfl, ?_⟩
  have parsed : int (Int.repr row.id) = some row.id := int_repr row.id
  have decoded : decodeAccessToken libraries choice.now
      (accessToken libraries settings minted row.id row.tokenVersion) =
        some (row.id, (row.tokenVersion : Int)) := by
    unfold decodeAccessToken accessToken
    rw [decodes _ _ _ _ before.2]
    simp [asInt, parsed]
  change Finishes (Before (minted + 60 * settings.accessTokenExpireMinutes)) me
    (checkToken libraries choice.now
      (accessToken libraries settings minted row.id row.tokenVersion))
    (fun user _ => user = row) (fun _ _ => False) store
  unfold checkToken
  rw [decoded]
  refine finishes_bind (finishes_query ?_)
  have read : store.db.tables.users.find? row.id = some row := found
  simp only [read, admitUser, ne_eq, not_true_eq_false, if_false]
  exact rfl

/-- In every run in which the CLI is given lower-cased emails only, every
account has an email of its own and its owner can log in. -/
theorem every_account_can_log_in (libraries : Libraries)
    (settings : Settings) (idempotent : LowerIdempotent libraries)
    (verifies : VerifiesExactly libraries)
    (decodes : DecodesUnexpired libraries) (store : Store)
    (passwords : Id → Option String)
    (reached : Reached libraries (StoresLower libraries) store passwords) :
    (∀ row ∈ (committed store).users.rows,
      libraries.lower row.email = row.email) ∧
    (∀ row ∈ (committed store).users.rows,
      ∀ other ∈ (committed store).users.rows,
        libraries.lower row.email = libraries.lower other.email →
          row = other) ∧
    ∀ row ∈ (committed store).users.rows, ∃ password,
      passwords row.id = some password ∧
      ∀ credential, libraries.lower credential = libraries.lower row.email →
      ∀ (me : Nat) (minted : Time),
        Finishes (AtTime minted) me
          (loginUser libraries settings ⟨credential, password⟩)
          (fun token _ => ∀ later : Store,
            (committed later).users.find? row.id = some row →
            ∀ other, Finishes
              (Before (minted + 60 * settings.accessTokenExpireMinutes)) other
              (getCurrentUser libraries (some token))
              (fun user _ => user = row) (fun _ _ => False) later)
          (fun _ _ => False) store := by
  have known := reached_known idempotent reached
  refine ⟨fun row member => (known row member).1, ?_, ?_⟩
  · intro row member other otherMember same
    rw [(known row member).1, (known other otherMember).1] at same
    exact Table.Unique.eq_of_value store.db.admissible.user.2 member
      otherMember rfl (congrArg some same.symm)
  · intro row member
    obtain ⟨lower, salt, password, remembered, hashed⟩ := known row member
    refine ⟨password, remembered, ?_⟩
    intro credential asks me minted
    rw [lower] at asks
    refine finishes_mono (finishes_loginUser verifies member hashed asks me
      minted) ?_ fun _ _ absurd => absurd
    rintro token _ rfl later found other
    exact finishes_getCurrentUser decodes found other minted

/-! ## Two first accounts -/

/-- Libraries that are as assumed: a token spells the version in unary before
the subject. -/
def plainLibraries : Libraries :=
  { sampleLibraries with
    hashPassword := fun _ password => password
    verifyPassword := fun password passwordHash =>
      .ok (decide (password = passwordHash))
    lower := fun text =>
      if text = "Root@uni.edu" then "root@uni.edu" else text
    encodeToken := fun sub ver _ =>
      String.ofList (List.replicate ver 'v' ++ '.' :: sub.toList)
    decodeToken := fun _ token => some
      ⟨some (String.ofList
          ((token.toList.dropWhile fun character => character = 'v').drop 1)),
        some (.int (token.toList.takeWhile
          fun character => character = 'v').length)⟩ }

theorem plain_idempotent : LowerIdempotent plainLibraries := by
  intro text
  simp only [plainLibraries]
  by_cases upper : text = "Root@uni.edu"
  · simp [upper]
  · simp [upper]

theorem plain_verifies : VerifiesExactly plainLibraries :=
  fun _ _ _ => rfl

theorem plain_decodes : DecodesUnexpired plainLibraries := by
  intro now sub ver exp _
  simp [plainLibraries]

def withId (newId : Id) (_ : Nat) : Choice := { newId := newId }

/-- The store in which a writer called on an empty database ends. -/
def after (writer : Writer) : Store :=
  (((writer.program plainLibraries).run.solo 0 (withId 1) {}).map
    fun outcome => outcome.2.1).getD {}

theorem after_reached (allowed : Writer → Prop) (writer : Writer)
    (isAllowed : allowed writer) (loaded : writer.Loaded (committed {}))
    (returns : ((writer.program plainLibraries).run.solo 0 (withId 1) {}).any
      (fun outcome => outcome.1.isOk) = true) :
    Reached plainLibraries allowed (after writer)
      (remember writer (.ok ()) (committed {}) (committed (after writer))
        fun _ => none) := by
  obtain ⟨outcome, runs, isOk⟩ := (Option.any_eq_true _ _).mp returns
  obtain ⟨answer, last, left⟩ := outcome
  have isLast : after writer = last := by
    simp [after, runs]
  cases answer with
  | error exc => cases isOk
  | ok done =>
      rw [isLast]
      exact .next 0 writer (.ok ()) (.initial {} rfl) isAllowed loaded
        (evaluates_of_solo _ (withId 1) (fun _ _ _ => trivial) runs)

def registering : Writer :=
  .registerUser ⟨"mona", "Root@uni.edu", "a password"⟩

def bootstrapping : Writer :=
  .createAdmin {} ⟨some "Root@uni.edu", some "root", some "a password"⟩

def registeredRow : User :=
  ⟨1, "mona", "root@uni.edu", .guest, 0, "a password", 0⟩

def bootstrappedRow : User :=
  ⟨1, "root", "Root@uni.edu", .admin, 0, "a password", 0⟩

/-- Registered with capitals, the account is found with and without them. -/
theorem every_account_can_log_in_registered :
    ∃ password,
      Finishes (AtTime 0) 0
        (loginUser plainLibraries .default ⟨"Root@uni.edu", password⟩)
        (fun _ _ => True) (fun _ _ => False) (after registering) ∧
      Finishes (AtTime 0) 0
        (loginUser plainLibraries .default ⟨"root@uni.edu", password⟩)
        (fun _ _ => True) (fun _ _ => False) (after registering) := by
  have reached := after_reached (StoresLower plainLibraries) registering
    trivial trivial (by decide +kernel)
  obtain ⟨password, _, logsIn⟩ := (every_account_can_log_in plainLibraries
    .default plain_idempotent plain_verifies plain_decodes (after registering)
    _ reached).2.2 registeredRow (by decide +kernel)
  have capitals : plainLibraries.lower "Root@uni.edu" =
      plainLibraries.lower registeredRow.email := by decide +kernel
  exact ⟨password,
    finishes_mono (logsIn "Root@uni.edu" capitals 0 0)
      (fun _ _ _ => trivial) fun _ _ absurd => absurd,
    finishes_mono (logsIn "root@uni.edu" rfl 0 0)
      (fun _ _ _ => trivial) fun _ _ absurd => absurd⟩

/-- An administrator created with capitals cannot log in. -/
theorem admin_cannot_log_in :
    LowerIdempotent plainLibraries ∧ VerifiesExactly plainLibraries ∧
    DecodesUnexpired plainLibraries ∧
    ∃ store passwords row,
      Reached plainLibraries (fun _ => True) store passwords ∧
      row ∈ (committed store).users.rows ∧
      plainLibraries.lower row.email ≠ row.email ∧
      passwords row.id = some "a password" ∧
      ∀ me now, Finishes (AtTime now) me
        (loginUser plainLibraries .default ⟨row.email, "a password"⟩)
        (fun _ _ => False) (fun exc _ => exc = incorrectLogin) store := by
  refine ⟨plain_idempotent, plain_verifies, plain_decodes,
    after bootstrapping, _, bootstrappedRow,
    after_reached (fun _ => True) bootstrapping trivial trivial
      (by decide +kernel), by decide +kernel, by decide +kernel,
    by decide +kernel, ?_⟩
  intro me now
  refine finishes_bind (finishes_query ?_)
  have absent : ((after bootstrapping).db.tables.users.rows.find?
      fun row => decide
        (row.email = plainLibraries.lower bootstrappedRow.email)) = none := by
    decide +kernel
  simp only [absent]
  exact rfl

end SystemUni.Accounts.Login
