import SystemUni.Accounts.Writers
import SystemUni.Registrar.UserDeletes

/-!
# When the guard of the last administrator refuses

`ensure_admin_remains` takes `None` both for a deletion and for an update that
does not mention the role.  A deletion is refused exactly when nobody would
remain; so is an update, unless it leaves the role of the only administrator
alone.
-/

set_option autoImplicit false

namespace SystemUni.Accounts.LastAdminGuard

open Interleaving Relational
open SystemUni.Runtime.Errors
open SystemUni.Runtime.External
open SystemUni.Runtime.Statements
open SystemUni.Runtime.Rules
open SystemUni.Models.Rows
open SystemUni.Models.Changes
open SystemUni.Models.Schema
open SystemUni.Crud.User
open SystemUni.Accounts.Writers
open SystemUni.Registrar.UserDeletes

/-! ## What a request would leave -/

/-- The role a user has once the payload has been applied to one of them. -/
def roleAfter (userUpdate : UserUpdate) (userId : Id) (row : User) :
    UserRole :=
  if row.id = userId then userUpdate.role.getD row.role else row.role

def UpdateLeavesNoAdmin (userUpdate : UserUpdate) (userId : Id)
    (tables : Tables) : Prop :=
  ∀ row ∈ tables.users.rows, roleAfter userUpdate userId row ≠ .admin

def DeletionLeavesNoAdmin (userId : Id) (tables : Tables) : Prop :=
  ∀ row ∈ (tables.users.erase userId).rows, row.role ≠ .admin

/-- Every call to the database succeeds. -/
abbrev answering : Condition university := Condition.allowing callSucceeds

/-- The request ends; it is refused with the 400 of the last administrator if
and only if nobody would remain, and then no table has changed. -/
def GuardExact {α : Type} (me : Nat) (store : Store) (request : Py α)
    (leavesNone : Prop) : Prop :=
  (∃ answer last, Evaluates answering me request.run store answer last) ∧
  ∀ answer last, Evaluates answering me request.run store answer last →
    (answer = .error lastAdmin ↔ leavesNone) ∧
    (answer = .error lastAdmin → committed last = committed store)

/-- The only administrator, in a payload that leaves the role alone. -/
def SoleAdminKept (userUpdate : UserUpdate) (userId : Id) (tables : Tables) :
    Prop :=
  userUpdate.role = none ∧ ∃ user, tables.users.find? userId = some user ∧
    user.role = .admin ∧ (tables.users.rows.filter isAdmin).length ≤ 1

/-! ## Whom the guard refuses -/

def Refuses (userId : Id) (nextRole : Option UserRole) (tables : Tables) :
    Prop :=
  ∃ user, tables.users.find? userId = some user ∧
    Refused user nextRole tables

section Tables

variable {tables : Tables} {userId : Id}

theorem isAdmin_iff {row : User} : isAdmin row = true ↔ row.role = .admin := by
  simp [isAdmin]

theorem sole_iff {user : User}
    (found : tables.users.find? userId = some user)
    (admin : user.role = .admin) :
    (tables.users.rows.filter isAdmin).length ≤ 1 ↔
      ∀ row ∈ tables.users.rows, row.role = .admin → row = user := by
  simpa only [isAdmin_iff] using tables.users.filter_length_le_one
    (Table.mem_of_find? found) (isAdmin_iff.mpr admin)

theorem updateLeavesNoAdmin_iff {userUpdate : UserUpdate}
    (admins : ∃ row ∈ tables.users.rows, row.role = .admin) :
    UpdateLeavesNoAdmin userUpdate userId tables ↔
      userUpdate.role ≠ none ∧ Refuses userId userUpdate.role tables := by
  constructor
  · intro leavesNone
    obtain ⟨user, member, admin⟩ := admins
    have changed := leavesNone user member
    have target : user.id = userId := by
      by_contra other
      simp [roleAfter, other, admin] at changed
    have found : tables.users.find? userId = some user :=
      Table.find?_eq_some_iff.mpr ⟨member, target⟩
    rw [roleAfter, if_pos target, admin] at changed
    refine ⟨?_, user, found, admin, ?_, (sole_iff found admin).mpr ?_⟩
    · intro unmentioned
      simp [unmentioned] at changed
    · intro again
      simp [again] at changed
    · intro row rowMember rowAdmin
      by_contra different
      have otherId : row.id ≠ userId := fun same =>
        different (tables.users.eq_of_key_eq rowMember member
          (same.trans target.symm))
      exact leavesNone row rowMember (by simp [roleAfter, otherId, rowAdmin])
  · rintro ⟨mentioned, user, found, admin, other, sole⟩ row member
    obtain ⟨role, isRole⟩ := Option.ne_none_iff_exists'.mp mentioned
    by_cases target : row.id = userId
    · rw [roleAfter, if_pos target, isRole]
      intro isAdminRole
      exact other (isRole.trans (congrArg some isAdminRole))
    · rw [roleAfter, if_neg target]
      intro rowAdmin
      have same := (sole_iff found admin).mp sole row member rowAdmin
      exact target (by rw [same, Table.key_of_find? found])

theorem deletionLeavesNoAdmin_iff
    (admins : ∃ row ∈ tables.users.rows, row.role = .admin) :
    DeletionLeavesNoAdmin userId tables ↔ Refuses userId none tables := by
  constructor
  · intro leavesNone
    have onlyTarget : ∀ row ∈ tables.users.rows, row.role = .admin →
        row.id = userId := by
      intro row member admin
      by_contra other
      exact leavesNone row (Table.mem_erase.mpr ⟨member, other⟩) admin
    obtain ⟨user, member, admin⟩ := admins
    have target := onlyTarget user member admin
    have found : tables.users.find? userId = some user :=
      Table.find?_eq_some_iff.mpr ⟨member, target⟩
    refine ⟨user, found, admin, nofun, (sole_iff found admin).mpr ?_⟩
    intro row rowMember rowAdmin
    exact tables.users.eq_of_key_eq rowMember member
      ((onlyTarget row rowMember rowAdmin).trans target.symm)
  · rintro ⟨user, found, admin, _, sole⟩ row listed rowAdmin
    obtain ⟨member, other⟩ := Table.mem_erase.mp listed
    have same := (sole_iff found admin).mp sole row member rowAdmin
    exact other (by rw [same, Table.key_of_find? found])

end Tables

/-! ## The requests -/

section Requests

variable {me : Nat} {store : Store} {userId : Id}

/-- How a guarded request fails: with the 400 if it is refused, and then with
nothing written, and otherwise in some other way. -/
def FailsAs (store : Store) (refused : Prop) (exc : Exc) (later : Store) :
    Prop :=
  if exc = lastAdmin then refused ∧ later.db = store.db else ¬ refused

theorem guardExact_iff {α : Type} {request : Py α} {refused leavesNone : Prop}
    (finishes : Finishes callSucceeds me request (fun _ _ => ¬ refused)
      (FailsAs store refused) store) :
    GuardExact me store request leavesNone ↔ (refused ↔ leavesNone) := by
  have ends : ∀ answer last,
      Evaluates answering me request.run store answer last →
      (answer = .error lastAdmin ↔ refused) ∧
        (answer = .error lastAdmin → committed last = committed store) := by
    intro answer last runs
    have holds := runs.ensured (alone_ensures request.run store finishes)
    cases answer with
    | ok value => exact ⟨⟨nofun, fun refuses => absurd refuses holds⟩, nofun⟩
    | error exc =>
        change FailsAs store refused exc last at holds
        unfold FailsAs at holds
        split at holds
        · rename_i isLastAdmin
          subst isLastAdmin
          exact ⟨⟨fun _ => holds.1, fun _ => rfl⟩,
            fun _ => congrArg Database.tables holds.2⟩
        · rename_i another
          refine ⟨⟨?_, fun refuses => absurd refuses holds⟩, ?_⟩
          · intro same
            exact absurd (Except.error.inj same) another
          · intro same
            exact absurd (Except.error.inj same) another
  obtain ⟨answer, last, runs, _⟩ :=
    alone_evaluates request.run store finishes {} rfl
  constructor
  · rintro ⟨_, exact_⟩
    exact (ends answer last runs).1.symm.trans (exact_ answer last runs).1
  · intro same
    refine ⟨⟨answer, last, runs⟩, ?_⟩
    intro answer last runs
    obtain ⟨refuses, unchanged⟩ := ends answer last runs
    exact ⟨refuses.trans same, unchanged⟩

theorem failsAs_other {refused : Prop} {exc : Exc} {later : Store}
    (another : exc ≠ lastAdmin) (passes : ¬ refused) :
    FailsAs store refused exc later := by
  rw [FailsAs, if_neg another]
  exact passes

/-- Whatever the writing part answers, it is not the 400 of the guard. -/
theorem finishes_handleUserErrors {α : Type} {exc : Exc}
    (another : exc ≠ lastAdmin) :
    Finishes callSucceeds me (handleUserErrors exc : Py α) (fun _ _ => True)
      (fun raised _ => raised ≠ lastAdmin) store := by
  unfold handleUserErrors
  split
  · exact finishes_bind (finishes_command fun _ _ =>
      finishes_throw _ (by simp [userConflict, lastAdmin]))
  · exact finishes_bind (finishes_command fun _ _ =>
      finishes_throw _ (by simp [invalidUserInput, lastAdmin]))
  · exact finishes_throw _ another

theorem finishes_refreshUser :
    Finishes callSucceeds me (refreshUser userId) (fun _ _ => True)
      (fun raised _ => raised ≠ lastAdmin) store := by
  refine finishes_bind (finishes_query ?_)
  cases store.db.tables.users.find? userId with
  | none => exact finishes_throw _ (by simp [lastAdmin])
  | some user => exact finishes_pure _ trivial

theorem finishes_commitUser {user : User} {change : UserChange}
    (mine : LocksMine me store) :
    Finishes callSucceeds me (commitUser user change) (fun _ _ => True)
      (fun raised _ => raised ≠ lastAdmin) store :=
  finishes_lockingTransaction (by rw [mine.free, Bool.or_true])
    (fun _ _ _ _ _ => trivial) fun _ _ _ refused => commit_ne_lastAdmin refused

theorem finishes_saveUser {user : User} {change : UserChange}
    (mine : LocksMine me store) :
    Finishes callSucceeds me
      (tryCatch
        (do
          commitUser user change
          refreshUser user.id)
        handleUserErrors)
      (fun _ _ => True) (fun raised _ => raised ≠ lastAdmin) store := by
  have saves : Finishes callSucceeds me
      (do
        commitUser user change
        refreshUser user.id)
      (fun _ _ => True) (fun raised _ => raised ≠ lastAdmin) store :=
    finishes_bind (finishes_mono (finishes_commitUser mine)
      (fun _ _ _ => finishes_refreshUser) fun _ _ another => another)
  exact finishes_tryCatch (finishes_mono saves (fun _ _ _ => trivial)
    fun _ _ another => finishes_handleUserErrors another)

theorem finishes_hashOptional {libraries : Libraries}
    {password : Option String} {fail : Exc → Store → Prop} :
    Finishes callSucceeds me (hashOptional libraries password)
      (fun _ later => later = store) fail store := by
  cases password with
  | none => exact finishes_pure _ rfl
  | some password =>
      exact finishes_bind (finishes_bind (finishes_command fun _ _ =>
        finishes_pure _ (finishes_pure _ rfl)))

theorem refuses_iff {userId : Id} {nextRole : Option UserRole} {user : User}
    (found : store.db.tables.users.find? userId = some user) :
    Refuses userId nextRole store.db.tables ↔
      Refused user nextRole store.db.tables := by
  simp [Refuses, found]

theorem finishes_updateUser (libraries : Libraries) (userUpdate : UserUpdate)
    (mine : LocksMine me store) :
    Finishes callSucceeds me (updateUser libraries userUpdate userId)
      (fun _ _ => ¬ Refuses userId userUpdate.role store.db.tables)
      (FailsAs store (Refuses userId userUpdate.role store.db.tables))
      store := by
  refine finishes_bind (finishes_query ?_)
  cases found : store.db.tables.users.find? userId with
  | none =>
      refine finishes_throw _ (failsAs_other (by simp [userNotFound, lastAdmin])
        ?_)
      rintro ⟨user, isUser, _⟩
      simp [found] at isUser
  | some user =>
      refine finishes_bind (finishes_mono (finishes_ensureAdminRemains mine)
        ?_ ?_)
      · rintro _ guarded ⟨passes, locks⟩
        have accepted : ¬ Refuses userId userUpdate.role store.db.tables :=
          mt (refuses_iff found).mp passes
        refine finishes_bind (finishes_mono finishes_hashOptional ?_
          fun _ _ failed => failed)
        rintro passwordHash _ rfl
        exact finishes_mono (finishes_saveUser locks.mine)
          (fun _ _ _ => accepted)
          fun _ _ another => failsAs_other another accepted
      · rintro exc guarded ⟨rfl, refused, locks⟩
        rw [FailsAs, if_pos rfl]
        exact ⟨(refuses_iff found).mpr refused, locks.db⟩

theorem finishes_deleteUser_guarded (mine : LocksMine me store) :
    Finishes callSucceeds me (deleteUser userId)
      (fun _ _ => ¬ Refuses userId none store.db.tables)
      (FailsAs store (Refuses userId none store.db.tables)) store := by
  refine finishes_mono (finishes_deleteUser mine) ?_ ?_
  · rintro _ later ⟨user, found, passes, _⟩
    exact mt (refuses_iff found).mp passes
  · rintro exc later (⟨rfl, missing⟩ | ⟨user, found,
      ⟨rfl, refused, same⟩ | ⟨another, passes, _⟩⟩)
    · refine failsAs_other (by simp [userNotFound, lastAdmin]) ?_
      rintro ⟨user, isUser, _⟩
      simp [missing] at isUser
    · rw [FailsAs, if_pos rfl]
      exact ⟨(refuses_iff found).mpr refused, same⟩
    · exact failsAs_other another (mt (refuses_iff found).mp passes)

end Requests

/-! ## The exact condition -/

/-- With somebody in the role and nobody else holding a row lock, deletions
are refused exactly when nobody would remain, and updates are unless they
leave the role of the only administrator alone. -/
theorem guard_exact_iff_role_mentioned (libraries : Libraries) (me : Nat)
    (store : Store) (mine : LocksMine me store)
    (admins : ∃ row ∈ store.db.tables.users.rows, row.role = .admin)
    (userId : Id) :
    (∀ userUpdate,
      GuardExact me store (updateUser libraries userUpdate userId)
          (UpdateLeavesNoAdmin userUpdate userId store.db.tables) ↔
        ¬ SoleAdminKept userUpdate userId store.db.tables) ∧
    GuardExact me store (deleteUser userId)
      (DeletionLeavesNoAdmin userId store.db.tables) := by
  constructor
  · intro userUpdate
    rw [guardExact_iff (finishes_updateUser libraries userUpdate mine),
      updateLeavesNoAdmin_iff admins]
    constructor
    · rintro same ⟨unmentioned, user, found, admin, sole⟩
      have refused : Refuses userId userUpdate.role store.db.tables :=
        ⟨user, found, admin, by simp [unmentioned], sole⟩
      exact (same.mp refused).1 unmentioned
    · intro notKept
      refine ⟨fun refused => ⟨?_, refused⟩, fun leavesNone => leavesNone.2⟩
      intro unmentioned
      obtain ⟨user, found, admin, _, sole⟩ := refused
      exact notKept ⟨unmentioned, user, found, admin, sole⟩
  · rw [guardExact_iff (finishes_deleteUser_guarded mine),
      deletionLeavesNoAdmin_iff admins]

theorem sample_unlocked (me : Nat) : LocksMine me sampleStore := nofun

/-- A new name for the only administrator is refused, although the account
would remain one. -/
theorem renaming_sole_admin_refused :
    sampleAdmin ∈ sampleStore.db.tables.users.rows ∧
    sampleAdmin.role = .admin ∧
    ¬ GuardExact 0 sampleStore
      (updateUser sampleLibraries { username := some "boss" } sampleAdmin.id)
      (UpdateLeavesNoAdmin { username := some "boss" } sampleAdmin.id
        sampleStore.db.tables) := by
  have member : sampleAdmin ∈ sampleStore.db.tables.users.rows := by decide
  refine ⟨member, rfl, ?_⟩
  rw [guardExact_iff (finishes_updateUser _ _ (sample_unlocked 0))]
  intro same
  have refused : Refuses sampleAdmin.id none sampleStore.db.tables :=
    ⟨sampleAdmin, rfl, rfl, nofun, by decide⟩
  exact same.mp refused sampleAdmin member rfl

theorem sample_guard_exact_iff :
    (∀ userUpdate,
      GuardExact 0 sampleStore (updateUser sampleLibraries userUpdate 1)
          (UpdateLeavesNoAdmin userUpdate 1 sampleStore.db.tables) ↔
        ¬ SoleAdminKept userUpdate 1 sampleStore.db.tables) ∧
    GuardExact 0 sampleStore (deleteUser 1)
      (DeletionLeavesNoAdmin 1 sampleStore.db.tables) :=
  guard_exact_iff_role_mentioned sampleLibraries 0 sampleStore
    (sample_unlocked 0) ⟨sampleAdmin, by decide, rfl⟩ 1

end SystemUni.Accounts.LastAdminGuard
