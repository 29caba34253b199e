import SystemUni.Accounts.Frame
import SystemUni.Cli

/-!
# The writers of accounts, one at a time

What each function that writes user rows leaves of the tables when it has
finished, for any way its calls end.
-/

set_option autoImplicit false

namespace SystemUni.Accounts.Writers

open Interleaving Relational
open SystemUni.Runtime.Errors
open SystemUni.Runtime.External
open SystemUni.Runtime.Statements
open SystemUni.Runtime.Rules
open SystemUni.Models.Rows
open SystemUni.Models.Changes
open SystemUni.Models.Schema
open SystemUni.Security.Auth
open SystemUni.Crud.User
open SystemUni.Accounts.Frame
open SystemUni.Cli

def committed (store : Store) : Tables := store.db.tables

theorem committed_besideLocks : BesideLocks committed :=
  ⟨fun _ _ _ => rfl, fun _ _ => rfl⟩

/-! ## What a writer does -/

/-- A new account with these fields. -/
def Created (libraries : Libraries) (username email : String)
    (role : UserRole) (password : String) (before after : Tables) : Prop :=
  ∃ row salt, ∃ fresh : before.users.find? row.id = none,
    row.username = username ∧ row.email = email ∧ row.role = role ∧
    row.passwordHash = libraries.hashPassword salt password ∧
    row.tokenVersion = 0 ∧
    after = { before with users := before.users.insert row fresh }

def Updated (libraries : Libraries) (userId : Id)
    (username email : Option String) (role : Option UserRole)
    (password : Option String) (before after : Tables) : Prop :=
  ∃ user salt, before.users.find? userId = some user ∧
    ∃ change, change = userChange libraries user username email role
        (password.map (libraries.hashPassword salt)) ∧
      after = { before with
        users := before.users.updateWhere
          (fun row => decide (row.id = userId)) change.apply change.apply_id }

/-- The account is gone, its student is unlinked. -/
def Erased (userId : Id) (before after : Tables) : Prop :=
  ∃ dependent, flushDeleteUser userId dependent before = .ok after

/-- The account is not that of the last administrator. -/
def AdminRemains (user : User) (tables : Tables) : Prop :=
  user.role ≠ .admin ∨ 1 < (tables.users.rows.filter isAdmin).length

/-- `Erased`, with what the deletion has made sure of and whom it unlinks. -/
def Removed (userId : Id) (before after : Tables) : Prop :=
  ∃ user, before.users.find? userId = some user ∧ AdminRemains user before ∧
    flushDeleteUser userId (linkedStudent userId before) before = .ok after

def unlocked (store : Store) : Store :=
  { store with userLocks := fun _ => none }

theorem unlocked_besideLocks : BesideLocks unlocked :=
  ⟨fun _ _ _ => rfl, fun _ _ => rfl⟩

theorem unlocked_same {first second : Store}
    (same : unlocked first = unlocked second) :
    first.cache = second.cache ∧ committed first = committed second := by
  change (unlocked first).cache = (unlocked second).cache ∧
    committed (unlocked first) = committed (unlocked second)
  rw [same]
  exact ⟨rfl, rfl⟩

theorem updateWhere_unchanged (users : Table User.id)
    (condition : User → Bool) :
    users.updateWhere condition ({} : UserChange).apply
      ({} : UserChange).apply_id = users := by
  refine Table.ext ?_
  change users.rows.map _ = users.rows
  rw [List.map_congr_left (g := id), List.map_id]
  intro row _
  split
  · rfl
  · rfl

section Specifications

variable {condition : Condition university} {me : Nat} {store : Store}
  {libraries : Libraries} {α : Type}

theorem yields_handled {handler : Exc → Py α} (handles : Handles handler)
    {exc : Exc} {post : α → Store → Prop} (fails : Tables → Prop)
    (holds : fails (committed store)) :
    Yields condition me (handler exc) post
      (fun _ later => fails (committed later)) store := by
  rcases handles exc with same | ⟨_, _, reported, _, _, same⟩
  · rw [same]
    exact yields_throw holds
  · rw [same]
    exact yields_bind (yields_command fun _ _ => yields_throw holds)

theorem yields_hashPassword {password : String}
    {post : String → Store → Prop} {fail : Exc → Store → Prop}
    (returns : ∀ salt, post (libraries.hashPassword salt password) store) :
    Yields condition me (hashPassword libraries password) post fail store :=
  yields_bind (yields_internal fun choice _ => yields_pure
    (returns choice.salt))

theorem yields_hashOptional {password : Option String}
    {post : Option String → Store → Prop} {fail : Exc → Store → Prop}
    (returns : ∀ salt,
      post (password.map (libraries.hashPassword salt)) store) :
    Yields condition me (hashOptional libraries password) post fail store := by
  cases password with
  | none => exact yields_pure (returns "")
  | some password =>
      exact yields_bind (yields_hashPassword fun salt =>
        yields_pure (returns salt))

theorem yields_refreshUser {userId : Id} {holds : Tables → Prop}
    (here : holds (committed store)) :
    Yields condition me (refreshUser userId)
      (fun _ later => holds (committed later))
      (fun _ later => holds (committed later)) store := by
  have same : Yields condition me (refreshUser userId)
      (fun _ later => committed later = committed store)
      (fun _ later => committed later = committed store) store :=
    yields_of_leaves (leaves_refreshUser userId)
  refine yields_mono same ?_ ?_
  · intro _ later unchanged
    rw [unchanged]
    exact here
  · intro _ later unchanged
    rw [unchanged]
    exact here

theorem yields_commitNewUser {user : Choice → User}
    (created : Tables → Prop)
    (creates : ∀ choice,
      ∀ fresh : (committed store).users.find? (user choice).id = none,
      created { committed store with
        users := (committed store).users.insert (user choice) fresh }) :
    Yields condition me (commitNewUser user)
      (fun _ later => created (committed later))
      (fun _ later => committed later = committed store ∨
        created (committed later)) store := by
  refine yields_transaction (fun _ _ _ => .inl rfl) ?_ (fun _ _ _ _ => .inl rfl)
  intro choice value next _ body
  obtain ⟨pair, done, becomes⟩ := mapped_ok body
  cases becomes
  obtain ⟨db, inserted, isNext⟩ := Store.commit_ok done
  obtain ⟨fresh, isAfter⟩ := insertUser_ok inserted
  have holds : created (committed pair.2) := by
    rw [isNext]
    change created db.tables
    rw [isAfter]
    exact creates choice fresh
  exact ⟨holds, fun _ _ _ => .inr holds⟩

/-- The `try` block of `register_user` and `create_user`. -/
theorem yields_insertUser {user : Choice → User} (created : Tables → Prop)
    (creates : ∀ choice,
      ∀ fresh : (committed store).users.find? (user choice).id = none,
      created { committed store with
        users := (committed store).users.insert (user choice) fresh }) :
    Yields condition me
      (tryCatch
        (do
          let newUser ← commitNewUser user
          refreshUser newUser.id)
        handleUserErrors)
      (fun _ later => created (committed later))
      (fun _ later => committed later = committed store ∨
        created (committed later)) store := by
  refine yields_tryCatch (yields_bind (yields_mono
    (yields_commitNewUser created creates) ?_ ?_))
  · intro newUser later holds
    refine yields_mono (yields_refreshUser holds) (fun _ _ still => still) ?_
    intro exc last still
    exact yields_handled handles_userErrors
      (fun tables => tables = committed store ∨ created tables)
      (.inr still)
  · intro exc later either
    exact yields_handled handles_userErrors
      (fun tables => tables = committed store ∨ created tables)
      either

theorem yields_registerUser {user : UserRegister} :
    Yields condition me (registerUser libraries user)
      (fun _ later => Created libraries user.username
        (libraries.lower user.email) .guest user.password (committed store)
        (committed later))
      (fun _ later => committed later = committed store ∨
        Created libraries user.username (libraries.lower user.email) .guest
          user.password (committed store) (committed later)) store := by
  refine yields_bind (yields_hashPassword fun salt => yields_insertUser
    (Created libraries user.username (libraries.lower user.email)
      .guest user.password (committed store)) ?_)
  intro choice fresh
  exact ⟨_, salt, fresh, rfl, rfl, rfl, rfl, rfl, rfl⟩

theorem yields_createUser {user : UserCreate} :
    Yields condition me (createUser libraries user)
      (fun _ later => Created libraries user.username
        (libraries.lower user.email) user.role user.password (committed store)
        (committed later))
      (fun _ later => committed later = committed store ∨
        Created libraries user.username (libraries.lower user.email) user.role
          user.password (committed store) (committed later)) store := by
  refine yields_bind (yields_hashPassword fun salt => yields_insertUser
    (Created libraries user.username (libraries.lower user.email)
      user.role user.password (committed store)) ?_)
  intro choice fresh
  exact ⟨_, salt, fresh, rfl, rfl, rfl, rfl, rfl, rfl⟩

theorem yields_insertAdmin {account : AdminAccount} :
    Yields condition me (insertAdmin libraries account)
      (fun _ later => committed later = committed store ∨
        Created libraries account.username account.email .admin
          account.password (committed store) (committed later))
      (fun _ later => committed later = committed store ∨
        Created libraries account.username account.email .admin
          account.password (committed store) (committed later)) store := by
  refine yields_bind (yields_query (fun _ _ _ => .inl rfl) ?_)
  cases scalarOneOrNone (store.db.tables.users.rows.filter fun row =>
      decide (row.email = account.email) ||
        decide (row.username = account.username)) with
  | error exc => exact yields_throw (.inl rfl)
  | ok existing =>
      cases existing with
      | some user => exact yields_pure (.inl rfl)
      | none =>
          refine yields_bind (yields_hashPassword fun salt => ?_)
          refine yields_bind (yields_mono (yields_commitNewUser
            (Created libraries account.username account.email
              .admin account.password (committed store)) ?_) ?_
            (fun _ _ either => either))
          · intro choice fresh
            exact ⟨_, salt, fresh, rfl, rfl, rfl, rfl, rfl, rfl⟩
          · intro newAdmin later created
            refine yields_bind (yields_mono (yields_refreshUser created)
              (fun _ _ still => yields_pure (.inr still))
              fun _ _ still => .inr still)

/-- Whatever the exit code, at most the administrator that the parameters
resolve to has been created. -/
theorem yields_createAdmin {environment : Environment}
    {arguments : AdminArguments} (holds : Tables → Prop)
    (unchanged : holds (committed store))
    (creates : ∀ account, resolve environment arguments = some account →
      ∀ after, Created libraries account.username account.email .admin
        account.password (committed store) after → holds after) :
    Yields condition me (createAdmin libraries environment arguments)
      (fun _ later => holds (committed later))
      (fun _ later => holds (committed later)) store := by
  unfold createAdmin
  cases resolved : resolve environment arguments with
  | none => exact yields_pure unchanged
  | some account =>
      have settles (later : Store)
          (either : committed later = committed store ∨
            Created libraries account.username account.email .admin
              account.password (committed store) (committed later)) :
          holds (committed later) := by
        rcases either with same | created
        · rw [same]
          exact unchanged
        · exact creates account resolved _ created
      refine yields_withFinally (yields_tryCatch (yields_mono
        yields_insertAdmin ?_ ?_))
      · intro code later either
        exact yields_command fun _ _ => settles later either
      · intro exc later either
        exact yields_bind (yields_command fun _ _ =>
          yields_pure (yields_command fun _ _ => settles later either))

/-! ### Updates and deletions -/

theorem yields_saveUser {user : User} {change : UserChange}
    (saved : Tables → Prop)
    (saves : saved { committed store with
      users := (committed store).users.updateWhere
        (fun row => decide (row.id = user.id)) change.apply
        change.apply_id }) :
    Yields condition me
      (tryCatch
        (do
          commitUser user change
          refreshUser user.id)
        handleUserErrors)
      (fun _ later => saved (committed later))
      (fun _ later => committed later = committed store ∨
        saved (committed later)) store := by
  have commits : Yields condition me (commitUser user change)
      (fun _ later => saved (committed later))
      (fun _ later => committed later = committed store ∨
        saved (committed later)) store := by
    refine yields_lockingTransaction (fun _ _ _ => .inl rfl) ?_
      (fun _ _ _ _ => .inl rfl)
    intro choice done next _ body
    obtain ⟨db, flushed, rfl⟩ := Store.commit_ok body
    have holds : saved db.tables := by
      rcases flushUser_ok flushed with
        ⟨rfl, same⟩ | ⟨_, row, _, isAfter⟩
      · rw [same]
        rw [updateWhere_unchanged] at saves
        exact saves
      · rw [isAfter]
        exact saves
    exact ⟨holds, fun _ _ _ => .inr holds⟩
  refine yields_tryCatch (yields_bind (yields_mono commits ?_ ?_))
  · intro done later holds
    refine yields_mono (yields_refreshUser holds) (fun _ _ still => still) ?_
    intro exc last still
    exact yields_handled handles_userErrors
      (fun tables => tables = committed store ∨ saved tables)
      (.inr still)
  · intro exc later either
    exact yields_handled handles_userErrors
      (fun tables => tables = committed store ∨ saved tables) either

theorem yields_updateUserMe {userUpdate : UserSelfUpdate} {currentUser : User}
    (loaded : (committed store).users.find? currentUser.id =
      some currentUser) :
    Yields condition me (updateUserMe libraries userUpdate currentUser)
      (fun _ later => Updated libraries currentUser.id userUpdate.username
        userUpdate.email none userUpdate.password (committed store)
        (committed later))
      (fun _ later => committed later = committed store ∨
        Updated libraries currentUser.id userUpdate.username userUpdate.email
          none userUpdate.password (committed store) (committed later))
      store := by
  refine yields_bind (yields_hashOptional fun salt => yields_saveUser
    (Updated libraries currentUser.id userUpdate.username
      userUpdate.email none userUpdate.password (committed store)) ?_)
  exact ⟨currentUser, salt, loaded, _, rfl, rfl⟩

theorem yields_updateUser {userUpdate : UserUpdate} {userId : Id} :
    Yields condition me (updateUser libraries userUpdate userId)
      (fun _ later => Updated libraries userId userUpdate.username
        userUpdate.email userUpdate.role userUpdate.password (committed store)
        (committed later))
      (fun _ later => committed later = committed store ∨
        Updated libraries userId userUpdate.username userUpdate.email
          userUpdate.role userUpdate.password (committed store)
          (committed later)) store := by
  refine yields_bind (yields_query (fun _ _ _ => .inl rfl) ?_)
  cases found : store.db.tables.users.find? userId with
  | none => exact yields_throw (.inl rfl)
  | some user =>
      have isUser := Table.key_of_find? found
      refine yields_bind (yields_mono (yields_of_leaves
        (leaves_ensureAdminRemains committed_besideLocks user
          userUpdate.role)) ?_ fun _ _ same => .inl same)
      intro _ guarded same
      refine yields_bind (yields_hashOptional fun salt => ?_)
      rw [← same]
      refine yields_saveUser (Updated libraries userId
        userUpdate.username userUpdate.email userUpdate.role
        userUpdate.password (committed guarded)) ?_
      refine ⟨user, salt, ?_, _, rfl, by rw [isUser]⟩
      rw [same]
      exact found

theorem yields_lockAdmins (ids : List Id) :
    Yields condition me (lockAdmins ids)
      (fun locked _ => locked.length ≤ ids.length) (fun _ _ => True)
      store := by
  induction ids generalizing store with
  | nil => exact yields_pure (le_refl _)
  | cons userId rest inductionHypothesis =>
      refine yields_bind (yields_lockingTransaction (fun _ _ _ => trivial) ?_
        fun _ _ _ _ => trivial)
      intro choice locked next _ _
      refine ⟨yields_bind (yields_mono inductionHypothesis ?_
        fun _ _ _ => trivial), fun _ _ _ => trivial⟩
      intro others later bound
      refine yields_pure ?_
      split
      · exact Nat.succ_le_succ bound
      · exact Nat.le_succ_of_le bound

theorem yields_ensureAdminRemains (user : User) :
    Yields condition me (ensureAdminRemains user none)
      (fun _ _ => AdminRemains user (committed store)) (fun _ _ => True)
      store := by
  unfold ensureAdminRemains
  split
  · rename_i noAdmin
    exact yields_pure (.inl (by simpa using noAdmin))
  refine yields_bind (yields_query (fun _ _ _ => trivial) ?_)
  refine yields_bind (yields_mono (yields_lockAdmins _) ?_ fun _ _ _ => trivial)
  intro adminIds later bound
  rw [List.length_map] at bound
  split
  · exact yields_throw trivial
  · rename_i several
    have more : 1 < (store.db.tables.users.rows.filter isAdmin).length := by
      omega
    exact yields_pure (.inr more)

theorem yields_removeUser {userId : Id} :
    Yields condition me (deleteUser userId)
      (fun _ later => later.cache = store.cache ∧
        Removed userId (committed store) (committed later))
      (fun _ later => later.cache = store.cache ∧
        (committed later = committed store ∨
          Removed userId (committed store) (committed later))) store := by
  refine yields_bind (yields_query (fun _ _ _ => ⟨rfl, .inl rfl⟩) ?_)
  cases found : store.db.tables.users.find? userId with
  | none => exact yields_throw ⟨rfl, .inl rfl⟩
  | some user =>
      have isUser := Table.key_of_find? found
      have guards : Yields condition me (ensureAdminRemains user none) _ _
          store := yields_and
        (yields_of_leaves (leaves_ensureAdminRemains unlocked_besideLocks user
          none)) (yields_ensureAdminRemains user)
      refine yields_bind (yields_mono guards ?_ ?_)
      · rintro _ guarded ⟨same, remains⟩
        obtain ⟨sameCache, sameTables⟩ := unlocked_same same
        have handled (post : Unit → Store → Prop) (exc : Exc) (later : Store)
            (either : later.cache = store.cache ∧
              (committed later = committed store ∨
                Removed userId (committed store) (committed later))) :
            Yields condition me
              (if exc.isIntegrityError then do
                rollback
                throw userReferenced
              else throw exc : Py Unit) post
              (fun _ last => last.cache = store.cache ∧
                (committed last = committed store ∨
                  Removed userId (committed store) (committed last)))
              later := by
          split
          · exact yields_bind (yields_command fun _ _ => yields_throw either)
          · exact yields_throw either
        have untouched : guarded.cache = store.cache ∧
            (committed guarded = committed store ∨
              Removed userId (committed store) (committed guarded)) :=
          ⟨sameCache, .inl sameTables⟩
        refine yields_bind (yields_tryCatch (yields_bind (yields_query
          (fun _ _ _ => handled _ _ _ untouched) ?_)))
        refine yields_lockingTransaction
          (fun _ _ _ => handled _ _ _ untouched) ?_
          (fun _ _ _ _ => handled _ _ _ untouched)
        intro choice done next _ body
        obtain ⟨db, flushed, rfl⟩ := Store.commit_ok body
        have removed : Removed userId (committed store) db.tables := by
          refine ⟨user, found, remains, ?_⟩
          rw [← sameTables]
          rw [isUser] at flushed
          exact flushed
        exact ⟨yields_pure ⟨sameCache, removed⟩,
          fun _ _ _ => handled _ _ _ ⟨sameCache, .inr removed⟩⟩
      · rintro exc later ⟨same, _⟩
        obtain ⟨sameCache, sameTables⟩ := unlocked_same same
        exact ⟨sameCache, .inl sameTables⟩

theorem yields_deleteUser {userId : Id} :
    Yields condition me (deleteUser userId)
      (fun _ later => Erased userId (committed store) (committed later))
      (fun _ later => committed later = committed store ∨
        Erased userId (committed store) (committed later)) store := by
  have erased {before after : Tables} (removed : Removed userId before after) :
      Erased userId before after := by
    obtain ⟨user, _, _, flushed⟩ := removed
    exact ⟨_, flushed⟩
  refine yields_mono yields_removeUser (fun _ _ done => erased done.2) ?_
  rintro exc later ⟨_, same | removed⟩
  · exact .inl same
  · exact .inr (erased removed)

end Specifications

/-! ## All writers -/

inductive Writer where
  | registerUser (user : UserRegister)
  | createUser (user : UserCreate)
  | updateUser (userUpdate : UserUpdate) (userId : Id)
  | updateUserMe (userUpdate : UserSelfUpdate) (currentUser : User)
  | deleteUser (userId : Id)
  | createAdmin (environment : Environment) (arguments : AdminArguments)

/-- The function called; only whether it returns is looked at. -/
def Writer.program (libraries : Libraries) : Writer → Py Unit
  | .registerUser user => do
      let _ ← Crud.User.registerUser libraries user
  | .createUser user => do
      let _ ← Crud.User.createUser libraries user
  | .updateUser userUpdate userId => do
      let _ ← Crud.User.updateUser libraries userUpdate userId
  | .updateUserMe userUpdate currentUser => do
      let _ ← Crud.User.updateUserMe libraries userUpdate currentUser
  | .deleteUser userId => do
      let _ ← Crud.User.deleteUser userId
  | .createAdmin environment arguments => do
      let _ ← Cli.createAdmin libraries environment arguments

/-- `update_user_me` is called with the row of the current user. -/
def Writer.Loaded (tables : Tables) : Writer → Prop
  | .updateUserMe _ currentUser =>
      tables.users.find? currentUser.id = some currentUser
  | _ => True

/-- The account that is updated. -/
def Writer.target : Writer → Option Id
  | .updateUser _ userId => some userId
  | .updateUserMe _ currentUser => some currentUser.id
  | _ => none

def Writer.Effect (libraries : Libraries) (before after : Tables) :
    Writer → Prop
  | .registerUser user =>
      Created libraries user.username (libraries.lower user.email) .guest
        user.password before after
  | .createUser user =>
      Created libraries user.username (libraries.lower user.email) user.role
        user.password before after
  | .updateUser userUpdate userId =>
      Updated libraries userId userUpdate.username userUpdate.email
        userUpdate.role userUpdate.password before after
  | .updateUserMe userUpdate currentUser =>
      Updated libraries currentUser.id userUpdate.username userUpdate.email
        none userUpdate.password before after
  | .deleteUser userId => Erased userId before after
  | .createAdmin environment arguments =>
      ∃ account, resolve environment arguments = some account ∧
        Created libraries account.username account.email .admin
          account.password before after

/-- A writer that returns has done its work, unless it only had to create an
administrator; one that raises may have. -/
theorem yields_writer {condition : Condition university} {me : Nat}
    {store : Store} {libraries : Libraries} (writer : Writer)
    (loaded : writer.Loaded (committed store)) :
    Yields condition me (writer.program libraries)
      (fun _ later =>
        writer.Effect libraries (committed store) (committed later) ∨
          committed later = committed store ∧ writer.target = none)
      (fun _ later => committed later = committed store ∨
        writer.Effect libraries (committed store) (committed later))
      store := by
  cases writer with
  | registerUser user =>
      exact yields_bind (yields_mono yields_registerUser
        (fun _ _ done => yields_pure (.inl done)) fun _ _ either => either)
  | createUser user =>
      exact yields_bind (yields_mono yields_createUser
        (fun _ _ done => yields_pure (.inl done)) fun _ _ either => either)
  | updateUser userUpdate userId =>
      exact yields_bind (yields_mono yields_updateUser
        (fun _ _ done => yields_pure (.inl done)) fun _ _ either => either)
  | updateUserMe userUpdate currentUser =>
      exact yields_bind (yields_mono (yields_updateUserMe loaded)
        (fun _ _ done => yields_pure (.inl done)) fun _ _ either => either)
  | deleteUser userId =>
      exact yields_bind (yields_mono yields_deleteUser
        (fun _ _ done => yields_pure (.inl done)) fun _ _ either => either)
  | createAdmin environment arguments =>
      refine yields_bind (yields_mono (yields_createAdmin
        (fun tables => tables = committed store ∨
          (Writer.createAdmin environment arguments).Effect libraries
            (committed store) tables) (.inl rfl) ?_) ?_
        fun _ _ either => either)
      · intro account resolved after created
        exact .inr ⟨account, resolved, created⟩
      · intro code later either
        refine yields_pure ?_
        rcases either with same | effect
        · exact .inr ⟨same, rfl⟩
        · exact .inl effect

end SystemUni.Accounts.Writers
