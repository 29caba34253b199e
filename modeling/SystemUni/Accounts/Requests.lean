import SystemUni.Accounts.Discipline
import SystemUni.Accounts.Frame

/-!
# Every account request keeps the discipline

The point of the argument is `runs_ensureAdminRemains`: a request that gets
past the guard with a target read as an administrator holds the locks of two
administrators, and at most one of them is the row it goes on to write.
-/

set_option autoImplicit false

namespace SystemUni.Accounts.Requests

open Interleaving Relational
open SystemUni.Runtime.Errors
open SystemUni.Runtime.External
open SystemUni.Runtime.Statements
open SystemUni.Runtime.Rules
open SystemUni.Models.Rows
open SystemUni.Models.Changes
open SystemUni.Models.Schema
open SystemUni.Security.Auth
open SystemUni.Crud.User
open SystemUni.Accounts.Discipline
open SystemUni.Accounts.Frame

section Specifications

variable {guarded : Prop} {me : Nat} {store : Store}

/-- What has to be known of the store before any clean-up. -/
abbrev Kept (guarded : Prop) {α : Type} (_ : α) (later : Store) : Prop :=
  AccountInvariant guarded later

/-! ## Locking the administrators -/

def LockedAdmin (session : Nat) (store : Store) (userId : Id) : Prop :=
  store.userLocks userId = some session ∧
    ((users store).find? userId).any isAdmin = true

theorem LockedAdmin.later {later : Store} {userId : Id}
    (locked : LockedAdmin me store userId)
    (untouched : Untouched me store later) : LockedAdmin me later userId := by
  obtain ⟨stillLocked, same⟩ := untouched userId locked.1
  exact ⟨stillLocked, by rw [same]; exact locked.2⟩

theorem runs_lockAdmin {userId : Id} {post : Bool → Store → Prop}
    {fail : Exc → Store → Prop} (invariant : AccountInvariant guarded store)
    (raises : ∀ exc later, Later (accountDiscipline guarded) me store later →
      fail exc later)
    (returns : ∀ locked later,
      Later (accountDiscipline guarded) me store later →
      (locked = true → LockedAdmin me later userId) → post locked later) :
    Runs (accountDiscipline guarded) me (lockAdmin userId) post fail store := by
  refine runs_lockingTransaction (account_stutters guarded) invariant raises ?_
  intro choice locked next free _ body
  by_cases admin : ((users store).find? userId).any isAdmin = true
  · rw [if_pos admin] at body
    cases body
    have mine : Untouched me store (store.lock me userId) :=
      fun otherId locks => ⟨lock_keeps (.inl rfl) locks, rfl⟩
    refine ⟨⟨?_, invariant.admins⟩, ⟨.unchanged _, ?_⟩, ?_⟩
    · intro otherId session locks
      rcases lock_locked locks with ⟨rfl, rfl⟩ | locks
      · exact Option.isSome_of_any admin
      · exact invariant.locks otherId session locks
    · intro other different otherId locks
      refine ⟨lock_keeps (.inr ?_) locks, rfl⟩
      rintro rfl
      exact lockFree_other free different locks
    · intro later follows
      have here : LockedAdmin me (store.lock me userId) userId :=
        ⟨if_pos rfl, admin⟩
      have whole : Later (accountDiscipline guarded) me store later :=
        ⟨follows.inv, mine.trans follows.rely⟩
      exact ⟨returns true later whole fun _ => here.later follows.rely,
        fun exc => raises exc later whole⟩
  · rw [if_neg admin] at body
    cases body
    refine ⟨invariant, account_stutters guarded _ _ _ _ invariant, ?_⟩
    intro later follows
    exact ⟨returns false later follows nofun,
      fun exc => raises exc later follows⟩

theorem runs_lockAdmins {ids : List Id} {post : List Id → Store → Prop}
    {fail : Exc → Store → Prop} (invariant : AccountInvariant guarded store)
    (raises : ∀ exc later, Later (accountDiscipline guarded) me store later →
      fail exc later)
    (returns : ∀ adminIds later,
      Later (accountDiscipline guarded) me store later →
      adminIds.Sublist ids → (∀ id ∈ adminIds, LockedAdmin me later id) →
      post adminIds later) :
    Runs (accountDiscipline guarded) me (lockAdmins ids) post fail store := by
  induction ids generalizing store post with
  | nil =>
      exact runs_pure _ (returns [] store (.refl invariant) .slnil
        fun _ member => by cases member)
  | cons userId rest inductionHypothesis =>
      refine runs_bind (runs_lockAdmin invariant raises ?_)
      intro locked afterLock lock isLocked
      refine runs_bind (inductionHypothesis lock.inv
        (fun exc later follows => raises exc later (lock.trans follows)) ?_)
      intro others later follows sublist locks
      refine runs_pure _ (returns _ later (lock.trans follows) ?_ ?_)
      · cases locked with
        | true => exact sublist.cons_cons userId
        | false => exact sublist.cons userId
      · intro id member
        cases locked with
        | true =>
            rcases List.mem_cons.mp member with rfl | member
            · exact (isLocked rfl).later follows.rely
            · exact locks id member
        | false => exact locks id member

/-- What the guard has established: nothing to guard, or two locked
administrators. -/
def Guarded (session : Nat) (store : Store) (user : User)
    (nextRole : Option UserRole) : Prop :=
  isAdmin user = false ∨ nextRole = some .admin ∨
    ∃ adminIds : List Id, adminIds.Nodup ∧ 2 ≤ adminIds.length ∧
      ∀ id ∈ adminIds, LockedAdmin session store id

theorem Guarded.later {later : Store} {user : User}
    {nextRole : Option UserRole} (guard : Guarded me store user nextRole)
    (untouched : Untouched me store later) :
    Guarded me later user nextRole := by
  rcases guard with other | keeps | ⟨adminIds, nodup, two, locked⟩
  · exact .inl other
  · exact .inr (.inl keeps)
  · exact .inr (.inr ⟨adminIds, nodup, two,
      fun id member => (locked id member).later untouched⟩)

theorem runs_ensureAdminRemains {user : User} {nextRole : Option UserRole}
    {post : Unit → Store → Prop} {fail : Exc → Store → Prop}
    (invariant : AccountInvariant guarded store)
    (raises : ∀ exc later, Later (accountDiscipline guarded) me store later →
      fail exc later)
    (returns : ∀ later, Later (accountDiscipline guarded) me store later →
      Guarded me later user nextRole → post () later) :
    Runs (accountDiscipline guarded) me (ensureAdminRemains user nextRole)
      post fail store := by
  unfold ensureAdminRemains
  split
  · rename_i skips
    refine runs_pure _ (returns store (.refl invariant) ?_)
    rcases skips with other | keeps
    · exact .inl (by simpa [isAdmin] using other)
    · exact .inr (.inl keeps)
  · refine runs_bind (runs_query (account_stutters guarded) invariant
      raises ?_)
    intro afterRead read
    refine runs_bind (runs_lockAdmins read.inv
      (fun exc later follows => raises exc later (read.trans follows)) ?_)
    intro adminIds later follows sublist locked
    split
    · exact runs_throw _ (raises _ later (read.trans follows))
    · rename_i notFew
      refine runs_pure _ (returns later (read.trans follows) ?_)
      have nodup := (users store).nodup.sublist
        ((List.filter_sublist (p := isAdmin)).map User.id)
      exact .inr (.inr ⟨adminIds, nodup.sublist sublist, by omega, locked⟩)

theorem exists_ne_of_two {ids : List Id} (nodup : ids.Nodup)
    (two : 2 ≤ ids.length) (userId : Id) : ∃ id ∈ ids, id ≠ userId := by
  match ids, nodup, two with
  | first :: second :: rest, nodup, _ =>
      have different : first ≠ second := by
        intro same
        simp [same] at nodup
      by_cases here : first = userId
      · exact ⟨second, by simp, fun same => different (here.trans same.symm)⟩
      · exact ⟨first, by simp, here⟩

theorem LockedAdmin.beside {id userId : Id}
    (locked : LockedAdmin me store id) (different : id ≠ userId) :
    AdminBeside (users store) userId := by
  obtain ⟨user, found, admin⟩ := any_isAdmin.mp locked.2
  exact ⟨user, Table.mem_of_find? found, admin,
    by rw [Table.key_of_find? found]; exact different⟩

/-- A guarded request leaves an administrator beside the row it writes. -/
theorem Guarded.beside {user : User} {nextRole : Option UserRole}
    (guard : Guarded me store user nextRole) (admin : isAdmin user = true)
    (other : nextRole ≠ some .admin) (userId : Id) :
    AdminBeside (users store) userId := by
  rcases guard with notAdmin | keeps | ⟨adminIds, nodup, two, locked⟩
  · rw [admin] at notAdmin
    cases notAdmin
  · exact absurd keeps other
  · obtain ⟨id, member, different⟩ := exists_ne_of_two nodup two userId
    exact (locked id member).beside different

/-! ## Commits -/

/-- A commit of the session that writes at most one row, which no other
session has locked. -/
theorem commit_untouched {next : Store} {userId : Id} {other : Nat}
    (different : me ≠ other) (free : store.lockFree me userId = true)
    (locks : next.userLocks = (store.releaseLocks me).userLocks)
    (others : ∀ otherId, otherId ≠ userId →
      (users next).find? otherId = (users store).find? otherId) :
    Untouched other store next := by
  intro otherId locked
  refine ⟨?_, others otherId ?_⟩
  · rw [locks]
    exact releaseLocks_other different locked
  · rintro rfl
    exact lockFree_other free different locked

theorem find?_update_other {table : Table User.id} {userId otherId : Id}
    (change : UserChange) (different : otherId ≠ userId) :
    (table.updateWhere (fun row => decide (row.id = userId)) change.apply
      change.apply_id).find? otherId = table.find? otherId := by
  rw [Table.find?_updateWhere]
  cases found : table.find? otherId with
  | none => rfl
  | some row =>
      have key : row.id = otherId := Table.key_of_find? found
      simp [key, different]

theorem admins_after_update {read : User} {change : UserChange}
    {nextRole : Option UserRole} {choice : Choice}
    (invariant : AccountInvariant guarded store)
    (guard : Guarded me store read nextRole)
    (roles : ∀ role, change.role = some role → nextRole = some role)
    (ok : (accountDiscipline guarded).ok
      (.account (.updateUser read change)) choice store) (holds : guarded) :
    SomeAdmin ((users store).updateWhere
      (fun row => decide (row.id = read.id)) change.apply
      change.apply_id) := by
  have some_ := invariant.admins holds
  cases role : change.role with
  | none => exact some_.update (.inl role)
  | some next =>
      by_cases keeps : next = .admin
      · exact some_.update (.inr (by rw [role, keeps]))
      · cases admin : isAdmin read with
        | true =>
            refine (guard.beside admin ?_ read.id).update change
            rw [roles next role]
            exact fun same => keeps (Option.some.inj same)
        | false =>
            -- The guard was skipped: only the condition of the run helps.
            have removes := ok holds
            simp only [removesUnguarded, admin, Bool.not_false, demotes, role,
              ne_eq, keeps, not_false_eq_true, decide_true,
              Bool.true_and] at removes
            exact (adminBeside_of_not_only some_ removes).update change

theorem runs_commitUser {read : User} {change : UserChange}
    {nextRole : Option UserRole} (invariant : AccountInvariant guarded store)
    (bumps : Bumps read change) (guard : Guarded me store read nextRole)
    (roles : ∀ role, change.role = some role → nextRole = some role) :
    Runs (accountDiscipline guarded) me (commitUser read change)
      (Kept guarded) (Kept guarded) store := by
  refine runs_lockingTransaction (account_stutters guarded) invariant
    (fun _ _ follows => follows.inv) ?_
  intro choice done next ready ok body
  obtain ⟨db, flushed, rfl⟩ := Store.commit_ok body
  have continues : ∀ later, Later (accountDiscipline guarded) me
      ((store.releaseLocks me).setTables db) later →
      AccountInvariant guarded later ∧
        ∀ exc : Exc, AccountInvariant guarded later :=
    fun later follows => ⟨follows.inv, fun _ => follows.inv⟩
  rcases flushUser_ok flushed with ⟨empty, same⟩ | ⟨dirtied, row, found, same⟩
  · have sameUsers : db.tables.users = users store := congrArg _ same
    refine ⟨⟨?_, ?_⟩, ⟨?_, ?_⟩, continues⟩
    · intro userId session locked
      change (db.tables.users.find? userId).isSome = true
      rw [sameUsers]
      exact invariant.locks userId session (releaseLocks_locked locked).2
    · intro holds
      change SomeAdmin db.tables.users
      rw [sameUsers]
      exact invariant.admins holds
    · change UserEffect (users store) _ db.tables.users
      rw [sameUsers]
      exact .unchanged _
    · intro other different userId locked
      refine ⟨releaseLocks_other different locked, ?_⟩
      change db.tables.users.find? userId = _
      rw [sameUsers]
  · have becomes : db.tables.users = (users store).updateWhere
        (fun row => decide (row.id = read.id)) change.apply
        change.apply_id := congrArg Tables.users same
    have free : store.lockFree me read.id = true := by
      simpa [dirtied] using ready
    refine ⟨⟨?_, ?_⟩, ⟨?_, ?_⟩, continues⟩
    · intro userId session locked
      have there := invariant.locks userId session (releaseLocks_locked locked).2
      change (db.tables.users.find? userId).isSome = true
      rw [becomes, Table.find?_updateWhere, Option.isSome_map]
      exact there
    · intro holds
      change SomeAdmin db.tables.users
      rw [becomes]
      exact admins_after_update invariant guard roles ok holds
    · change UserEffect (users store) _ db.tables.users
      rw [becomes]
      exact .updated read change bumps
    · intro other different
      refine commit_untouched different free rfl ?_
      intro otherId apart
      change db.tables.users.find? otherId = _
      rw [becomes]
      exact find?_update_other change apart

theorem find?_erase_other {table : Table User.id} {userId otherId : Id}
    (different : otherId ≠ userId) :
    (table.erase userId).find? otherId = table.find? otherId := by
  rw [Table.find?_erase, if_neg different]

theorem admins_after_delete {read : User} {dependent : Option Student}
    {choice : Choice} (invariant : AccountInvariant guarded store)
    (guard : Guarded me store read none)
    (ok : (accountDiscipline guarded).ok
      (.account (.deleteUser read dependent)) choice store)
    (holds : guarded) : SomeAdmin ((users store).erase read.id) := by
  cases admin : isAdmin read with
  | true => exact (guard.beside admin nofun read.id).erase
  | false =>
      have removes := ok holds
      simp only [removesUnguarded, admin, Bool.not_false,
        Bool.true_and] at removes
      exact (adminBeside_of_not_only (invariant.admins holds) removes).erase

theorem runs_commitDeleteUser {read : User} {dependent : Option Student}
    (invariant : AccountInvariant guarded store)
    (guard : Guarded me store read none) :
    Runs (accountDiscipline guarded) me (commitDeleteUser read dependent)
      (Kept guarded) (Kept guarded) store := by
  refine runs_lockingTransaction (account_stutters guarded) invariant
    (fun _ _ follows => follows.inv) ?_
  intro choice done next free ok body
  obtain ⟨db, flushed, rfl⟩ := Store.commit_ok body
  have becomes : db.tables.users = (users store).erase read.id := by
    obtain ⟨unlinked, _, same⟩ := flushDeleteUser_ok flushed
    rw [same]
    rfl
  refine ⟨⟨?_, ?_⟩, ⟨?_, ?_⟩,
    fun later follows => ⟨follows.inv, fun _ => follows.inv⟩⟩
  · intro userId session locked
    obtain ⟨different, before⟩ := releaseLocks_locked locked
    change (db.tables.users.find? userId).isSome = true
    rw [becomes, find?_erase_other]
    · exact invariant.locks userId session before
    · rintro rfl
      exact lockFree_other free different before
  · intro holds
    change SomeAdmin db.tables.users
    rw [becomes]
    exact admins_after_delete invariant guard ok holds
  · change UserEffect (users store) _ db.tables.users
    rw [becomes]
    exact .deleted read dependent
  · intro other different
    refine commit_untouched different free rfl ?_
    intro otherId apart
    change db.tables.users.find? otherId = _
    rw [becomes]
    exact find?_erase_other apart

theorem runs_commitNewUser {user : Choice → User}
    (invariant : AccountInvariant guarded store) :
    Runs (accountDiscipline guarded) me (commitNewUser user)
      (Kept guarded) (Kept guarded) store := by
  refine runs_transaction (account_stutters guarded) invariant
    (fun _ _ follows => follows.inv) ?_
  intro choice value next ok body
  obtain ⟨⟨done, after⟩, committed, becomes⟩ := mapped_ok body
  cases becomes
  obtain ⟨db, flushed, rfl⟩ := Store.commit_ok committed
  obtain ⟨fresh, inserted⟩ := insertUser_ok flushed
  have becomes : db.tables.users =
      (users store).insert (user choice) fresh := by
    rw [inserted]
  have keeps : ∀ userId, ((users store).find? userId).isSome = true →
      db.tables.users.find? userId = (users store).find? userId := by
    intro userId present
    obtain ⟨row, found⟩ := Option.isSome_iff_exists.mp present
    rw [becomes, found]
    exact Table.find?_insert_old fresh found
  refine ⟨⟨?_, ?_⟩, ⟨?_, ?_⟩,
    fun later follows => ⟨follows.inv, fun _ => follows.inv⟩⟩
  · intro userId session locked
    have present := invariant.locks userId session locked
    change (db.tables.users.find? userId).isSome = true
    rw [keeps userId present]
    exact present
  · intro holds
    obtain ⟨admin, member, isAdmin⟩ := invariant.admins holds
    refine ⟨admin, ?_, isAdmin⟩
    change admin ∈ db.tables.users.rows
    rw [becomes]
    exact (Table.mem_insert fresh).mpr (.inl member)
  · change UserEffect (users store) _ db.tables.users
    rw [becomes]
    exact .registered (user choice) fresh
  · intro other different userId locked
    exact ⟨locked, keeps userId (invariant.locks userId other locked)⟩

/-! ## Clean-up -/

theorem runs_rollback {post : Unit → Store → Prop}
    {fail : Exc → Store → Prop} (invariant : AccountInvariant guarded store)
    (returns : ∀ later, AccountInvariant guarded later → post () later) :
    Runs (accountDiscipline guarded) me rollback post fail store := by
  intro choice _ _
  refine ⟨⟨?_, invariant.admins⟩, ⟨.unchanged _, ?_⟩, ?_⟩
  · intro userId session locked
    exact invariant.locks userId session (releaseLocks_locked locked).2
  · intro other different userId locked
    exact ⟨releaseLocks_other different locked, rfl⟩
  · intro later laterInvariant _
    exact returns later laterInvariant

theorem runs_handled {α : Type} {handler : Exc → Py α}
    (handles : Handles handler) {exc : Exc}
    (invariant : AccountInvariant guarded store) :
    Runs (accountDiscipline guarded) me (handler exc)
      (Kept guarded) (Kept guarded) store := by
  rcases handles exc with same | ⟨_, _, reported, _, _, same⟩
  · rw [same]
    exact runs_throw _ invariant
  · rw [same]
    exact runs_bind (runs_rollback invariant fun _ later => runs_throw _ later)

theorem runs_getDb {α : Type} {request : Py α}
    (runs : Runs (accountDiscipline guarded) me request
      (Kept guarded) (Kept guarded) store) :
    Runs (accountDiscipline guarded) me (getDb request)
      (Kept guarded) (Kept guarded) store := by
  refine runs_mono (runs_session (fun _ => True) ?_ ?_)
    (fun _ _ kept => kept.1) fun _ _ kept => kept
  · exact fun later kept => runs_rollback kept fun _ last => last
  · exact runs_mono runs (fun _ _ kept => ⟨kept, trivial⟩)
      fun _ _ kept => kept

/-! ## The operations -/

theorem runs_hash {libraries : Libraries} {password : String}
    {post : String → Store → Prop} {fail : Exc → Store → Prop}
    (invariant : AccountInvariant guarded store)
    (returns : ∀ passwordHash later,
      Later (accountDiscipline guarded) me store later →
      post passwordHash later) :
    Runs (accountDiscipline guarded) me (hashPassword libraries password)
      post fail store :=
  runs_bind (runs_observe (account_stutters guarded) invariant
    fun _ later follows => runs_pure _ (returns _ later follows))

theorem runs_hashOptional {libraries : Libraries} {password : Option String}
    {post : Option String → Store → Prop} {fail : Exc → Store → Prop}
    (invariant : AccountInvariant guarded store)
    (returns : ∀ passwordHash later,
      Later (accountDiscipline guarded) me store later →
      post passwordHash later) :
    Runs (accountDiscipline guarded) me (hashOptional libraries password)
      post fail store := by
  cases password with
  | none => exact runs_pure _ (returns none store (.refl invariant))
  | some password =>
      exact runs_bind (runs_hash invariant
        fun _ later follows => runs_pure _ (returns _ later follows))

theorem runs_refreshUser {userId : Id}
    (invariant : AccountInvariant guarded store) :
    Runs (accountDiscipline guarded) me (refreshUser userId)
      (Kept guarded) (Kept guarded) store := by
  refine runs_bind (runs_query (account_stutters guarded) invariant
    (fun _ _ follows => follows.inv) ?_)
  intro later follows
  cases (users store).find? userId with
  | none => exact runs_throw _ follows.inv
  | some user => exact runs_pure _ follows.inv

theorem userChange_bumps (libraries : Libraries) (user : User)
    (username email : Option String) (role : Option UserRole)
    (passwordHash : Option String) :
    Bumps user (userChange libraries user username email role
      passwordHash) := by
  cases passwordHash with
  | some hash => exact .inr rfl
  | none =>
      cases role with
      | some role => exact .inr rfl
      | none => exact .inl ⟨rfl, rfl, rfl⟩

theorem userChange_role {libraries : Libraries} {user : User}
    {username email : Option String} {role : Option UserRole}
    {passwordHash : Option String} {next : UserRole}
    (written : (userChange libraries user username email role
      passwordHash).role = some next) : role = some next := by
  cases role with
  | none => cases written
  | some role =>
      simp only [userChange, Option.bind_some, dirty] at written
      split at written
      · cases written
      · exact written

theorem runs_saveUser {user : User} {change : UserChange}
    (nextRole : Option UserRole) (invariant : AccountInvariant guarded store)
    (bumps : Bumps user change) (guard : Guarded me store user nextRole)
    (roles : ∀ role, change.role = some role → nextRole = some role) :
    Runs (accountDiscipline guarded) me
      (tryCatch
        (do
          commitUser user change
          refreshUser user.id)
        handleUserErrors) (Kept guarded) (Kept guarded) store := by
  refine runs_tryCatch (runs_bind (runs_mono
    (runs_commitUser invariant bumps guard roles) ?_ ?_))
  · intro done later kept
    exact runs_mono (runs_refreshUser kept) (fun _ _ kept => kept)
      fun _ _ kept => runs_handled handles_userErrors kept
  · exact fun _ _ kept => runs_handled handles_userErrors kept

theorem runs_updateUser {libraries : Libraries} {userUpdate : UserUpdate}
    {userId : Id} (invariant : AccountInvariant guarded store) :
    Runs (accountDiscipline guarded) me
      (updateUser libraries userUpdate userId)
      (Kept guarded) (Kept guarded) store := by
  refine runs_bind (runs_query (account_stutters guarded) invariant
    (fun _ _ follows => follows.inv) ?_)
  intro afterRead read
  cases found : (users store).find? userId with
  | none => exact runs_throw _ read.inv
  | some user =>
      refine runs_bind (runs_ensureAdminRemains read.inv
        (fun _ _ follows => follows.inv) ?_)
      intro afterGuard follows guard
      refine runs_bind (runs_hashOptional follows.inv ?_)
      intro passwordHash afterHash hashed
      exact runs_saveUser _ hashed.inv (userChange_bumps ..)
        (guard.later hashed.rely) fun _ => userChange_role

theorem runs_updateUserMe {libraries : Libraries}
    {userUpdate : UserSelfUpdate} {currentUser : User}
    (invariant : AccountInvariant guarded store) :
    Runs (accountDiscipline guarded) me
      (updateUserMe libraries userUpdate currentUser)
      (Kept guarded) (Kept guarded) store := by
  refine runs_bind (runs_hashOptional invariant ?_)
  intro passwordHash afterHash hashed
  -- No role is written, as if the payload kept the administrator's.
  exact runs_saveUser (some .admin) hashed.inv (userChange_bumps ..)
    (.inr (.inl rfl)) nofun

theorem runs_deleteUser {userId : Id}
    (invariant : AccountInvariant guarded store) :
    Runs (accountDiscipline guarded) me (deleteUser userId)
      (Kept guarded) (Kept guarded) store := by
  refine runs_bind (runs_query (account_stutters guarded) invariant
    (fun _ _ follows => follows.inv) ?_)
  intro afterRead read
  cases found : (users store).find? userId with
  | none => exact runs_throw _ read.inv
  | some user =>
      refine runs_bind (runs_ensureAdminRemains read.inv
        (fun _ _ follows => follows.inv) ?_)
      intro afterGuard follows guard
      have handled : ∀ (post : Unit → Store → Prop) (exc : Exc)
          (later : Store), AccountInvariant guarded later →
          Runs (accountDiscipline guarded) me
            (if exc.isIntegrityError then do
              rollback
              throw userReferenced
            else throw exc : Py Unit) post (Kept guarded) later := by
        intro post exc later kept
        split
        · exact runs_bind (runs_rollback kept
            fun _ kept => runs_throw _ kept)
        · exact runs_throw _ kept
      refine runs_bind (runs_tryCatch (runs_bind (runs_query
        (account_stutters guarded) follows.inv
        (fun exc later failed => handled _ exc later failed.inv) ?_)))
      intro afterDependent dependent
      exact runs_mono (runs_commitDeleteUser dependent.inv
        (guard.later dependent.rely)) (fun _ _ kept => runs_pure _ kept)
        fun exc later kept => handled _ exc later kept

theorem runs_registerUser {libraries : Libraries} {user : UserRegister}
    (invariant : AccountInvariant guarded store) :
    Runs (accountDiscipline guarded) me (registerUser libraries user)
      (Kept guarded) (Kept guarded) store := by
  refine runs_bind (runs_hash invariant ?_)
  intro passwordHash afterHash hashed
  refine runs_tryCatch (runs_bind (runs_mono (runs_commitNewUser hashed.inv)
    ?_ ?_))
  · intro newUser later kept
    exact runs_mono (runs_refreshUser kept) (fun _ _ kept => kept)
      fun _ _ kept => runs_handled handles_userErrors kept
  · exact fun _ _ kept => runs_handled handles_userErrors kept

end Specifications

end SystemUni.Accounts.Requests
