import SystemUni.Crud.User
import SystemUni.Runtime.Rules

/-!
# What account requests do to the users table

`UserEffect` says once what a committed statement can do to the table.  The
discipline adds the row locks: a session may rely on the rows it has locked,
and as long as no commit behind an unlocked read removes the last
administrator, an administrator remains.
-/

set_option autoImplicit false

namespace SystemUni.Accounts.Discipline

open Interleaving Relational
open SystemUni.Runtime.Errors
open SystemUni.Runtime.External
open SystemUni.Runtime.Statements
open SystemUni.Runtime.Rules
open SystemUni.Models.Rows
open SystemUni.Models.Changes
open SystemUni.Models.Schema
open SystemUni.Security.Auth
open SystemUni.Crud.User

/-! ## Effects -/

/-- A change of the password or of the role carries the version above the one
that was read. -/
def Bumps (read : User) (change : UserChange) : Prop :=
  change.passwordHash = none ∧ change.role = none ∧
      change.tokenVersion = none ∨
    change.tokenVersion = some (read.tokenVersion + 1)

inductive UserEffect (before : Table User.id) :
    Label → Table User.id → Prop where
  | unchanged (label : Label) : UserEffect before label before
  | registered (user : User) (fresh : before.find? user.id = none) :
      UserEffect before (.account .registerUser) (before.insert user fresh)
  | updated (read : User) (change : UserChange) (bumps : Bumps read change) :
      UserEffect before (.account (.updateUser read change))
        (before.updateWhere (fun row => decide (row.id = read.id))
          change.apply change.apply_id)
  | deleted (read : User) (dependent : Option Student) :
      UserEffect before (.account (.deleteUser read dependent))
        (before.erase read.id)

abbrev users (store : Store) : Table User.id := store.db.tables.users

def SomeAdmin (table : Table User.id) : Prop :=
  ∃ user ∈ table.rows, isAdmin user = true

/-- An administrator other than this row. -/
def AdminBeside (table : Table User.id) (userId : Id) : Prop :=
  ∃ user ∈ table.rows, isAdmin user = true ∧ user.id ≠ userId

theorem AdminBeside.update {table : Table User.id} {userId : Id}
    (beside : AdminBeside table userId) (change : UserChange) :
    SomeAdmin (table.updateWhere (fun row => decide (row.id = userId))
      change.apply change.apply_id) := by
  obtain ⟨user, member, admin, different⟩ := beside
  refine ⟨user, (Table.mem_updateWhere change.apply_id).mpr
    ⟨user, member, ?_⟩, admin⟩
  simp [different]

theorem AdminBeside.erase {table : Table User.id} {userId : Id}
    (beside : AdminBeside table userId) : SomeAdmin (table.erase userId) := by
  obtain ⟨user, member, admin, different⟩ := beside
  exact ⟨user, Table.mem_erase.mpr ⟨member, different⟩, admin⟩

/-- A change that writes no other role leaves the administrators. -/
theorem SomeAdmin.update {table : Table User.id} (some_ : SomeAdmin table)
    {userId : Id} {change : UserChange}
    (role : change.role = none ∨ change.role = some .admin) :
    SomeAdmin (table.updateWhere (fun row => decide (row.id = userId))
      change.apply change.apply_id) := by
  obtain ⟨user, member, admin⟩ := some_
  refine ⟨_, (Table.mem_updateWhere change.apply_id).mpr
    ⟨user, member, rfl⟩, ?_⟩
  split
  · rcases role with role | role
    · simpa [isAdmin, UserChange.apply, role] using admin
    · simp [isAdmin, UserChange.apply, role]
  · exact admin

/-! ## The last administrator -/

theorem any_isAdmin {found : Option User} :
    found.any isAdmin = true ↔
      ∃ user, found = some user ∧ isAdmin user = true := by
  cases found <;> simp

def isOnlyAdmin (table : Table User.id) (userId : Id) : Bool :=
  (table.find? userId).any isAdmin &&
    table.rows.all fun user => !isAdmin user || decide (user.id = userId)

theorem adminBeside_of_not_only {table : Table User.id} {userId : Id}
    (some_ : SomeAdmin table) (only : isOnlyAdmin table userId = false) :
    AdminBeside table userId := by
  obtain ⟨user, member, admin⟩ := some_
  by_cases same : user.id = userId
  · subst same
    have found : table.find? user.id = some user := Table.find?_of_mem member
    simp only [isOnlyAdmin, found, Option.any_some, admin, Bool.true_and,
      List.all_eq_false] at only
    obtain ⟨other, otherMember, otherAdmin⟩ := only
    simp only [Bool.or_eq_true, Bool.not_eq_true', decide_eq_true_eq,
      not_or, Bool.not_eq_false] at otherAdmin
    exact ⟨other, otherMember, otherAdmin.1, otherAdmin.2⟩
  · exact ⟨user, member, admin, same⟩

def demotes (change : UserChange) : Bool :=
  match change.role with
  | none => false
  | some role => decide (role ≠ .admin)

/-- The statement demotes or deletes the only administrator although its
request read the row with another role, and therefore took no lock. -/
def removesUnguarded (label : Label) (store : Store) : Bool :=
  match label with
  | .account (.updateUser read change) =>
      !isAdmin read && demotes change && isOnlyAdmin (users store) read.id
  | .account (.deleteUser read _) =>
      !isAdmin read && isOnlyAdmin (users store) read.id
  | _ => false

/-! ## Locks -/

/-- The rows a session has locked are locked and as they were. -/
def Untouched (session : Nat) (before after : Store) : Prop :=
  ∀ userId, before.userLocks userId = some session →
    after.userLocks userId = some session ∧
      (users after).find? userId = (users before).find? userId

theorem Untouched.refl (session : Nat) (store : Store) :
    Untouched session store store := fun _ locked => ⟨locked, rfl⟩

theorem Untouched.trans {session : Nat} {first middle last : Store}
    (before : Untouched session first middle)
    (after : Untouched session middle last) :
    Untouched session first last := by
  intro userId locked
  obtain ⟨stillLocked, same⟩ := before userId locked
  obtain ⟨finallyLocked, further⟩ := after userId stillLocked
  exact ⟨finallyLocked, further.trans same⟩

/-- Only existing rows are locked. -/
def LocksExist (store : Store) : Prop :=
  ∀ userId session, store.userLocks userId = some session →
    ((users store).find? userId).isSome = true

/-- `guarded` is the condition under which the discipline speaks of
administrators at all. -/
structure AccountInvariant (guarded : Prop) (store : Store) : Prop where
  locks : LocksExist store
  admins : guarded → SomeAdmin (users store)

def accountDiscipline (guarded : Prop) : Discipline university where
  inv := AccountInvariant guarded
  rely := Untouched
  guar me label _ before after :=
    UserEffect (users before) label (users after) ∧
      ∀ other, me ≠ other → Untouched other before after
  ok label _ store := guarded → removesUnguarded label store = false
  rely_refl := Untouched.refl
  rely_trans _ _ _ _ before after := before.trans after
  guar_rely different guaranteed := guaranteed.2 _ different

theorem account_stutters (guarded : Prop) :
    Stutters (accountDiscipline guarded) :=
  fun _ label _ _ _ => ⟨.unchanged label, fun other _ => .refl other _⟩

theorem lock_keeps {store : Store} {session other : Nat} {userId otherId : Id}
    (apart : session = other ∨ otherId ≠ userId)
    (locked : store.userLocks otherId = some other) :
    (store.lock session userId).userLocks otherId = some other := by
  simp only [Store.lock]
  split
  · rename_i same
    rcases apart with rfl | different
    · rfl
    · exact absurd same different
  · exact locked

theorem lock_locked {store : Store} {session other : Nat}
    {userId otherId : Id}
    (locked : (store.lock session userId).userLocks otherId = some other) :
    otherId = userId ∧ session = other ∨
      store.userLocks otherId = some other := by
  simp only [Store.lock] at locked
  split at locked
  · rename_i same
    exact .inl ⟨same, Option.some.inj locked⟩
  · exact .inr locked

theorem releaseLocks_other {store : Store} {session other : Nat}
    {userId : Id} (different : session ≠ other)
    (locked : store.userLocks userId = some other) :
    (store.releaseLocks session).userLocks userId = some other := by
  have notMine : ¬ store.userLocks userId = some session :=
    fun mine => different (Option.some.inj (mine.symm.trans locked))
  rw [← locked]
  exact if_neg notMine

theorem releaseLocks_locked {store : Store} {session other : Nat}
    {userId : Id}
    (locked : (store.releaseLocks session).userLocks userId = some other) :
    session ≠ other ∧ store.userLocks userId = some other := by
  simp only [Store.releaseLocks] at locked
  split at locked
  · cases locked
  · rename_i notMine
    refine ⟨?_, locked⟩
    rintro rfl
    exact notMine locked

theorem lockFree_other {store : Store} {session other : Nat} {userId : Id}
    (free : store.lockFree session userId = true) (different : session ≠ other) :
    store.userLocks userId ≠ some other := by
  intro locked
  simp only [Store.lockFree, locked, decide_eq_true_eq] at free
  exact different free.symm

end SystemUni.Accounts.Discipline
