import SystemUni.Registrar.Deletes

/-!
# Deleting a user

The guard of the last administrator locks rows and writes nothing; then the
linked student is detached and the user deleted.
-/

set_option autoImplicit false

namespace SystemUni.Registrar.UserDeletes

open Interleaving Relational
open SystemUni.Runtime.Errors
open SystemUni.Runtime.Statements
open SystemUni.Runtime.Rules
open SystemUni.Models.Rows
open SystemUni.Models.Changes
open SystemUni.Models.Schema
open SystemUni.Crud.User
open SystemUni.Registrar.References
open SystemUni.Registrar.Deletes

section Guard

variable {me : Nat} {store : Store}

/-- Nobody else holds a row lock, so no statement waits. -/
def LocksMine (me : Nat) (store : Store) : Prop :=
  ∀ userId holder, store.userLocks userId = some holder → holder = me

theorem LocksMine.free (mine : LocksMine me store) (userId : Id) :
    store.lockFree me userId = true := by
  unfold Store.lockFree
  cases held : store.userLocks userId with
  | none => rfl
  | some holder => simpa using mine userId holder held

theorem LocksMine.lock (mine : LocksMine me store) (userId : Id) :
    LocksMine me (store.lock me userId) := by
  intro otherId holder held
  simp only [Store.lock] at held
  split at held
  · exact (Option.some.inj held).symm
  · exact mine otherId holder held

/-- The same data, with more locks of this session. -/
structure OnlyLocked (me : Nat) (before after : Store) : Prop where
  db : after.db = before.db
  queue : after.queue = before.queue
  mine : LocksMine me after

theorem finishes_lockAdmins {ids : List Id} {fail : Exc → Store → Prop}
    (mine : LocksMine me store)
    (admins : ∀ id ∈ ids,
      (store.db.tables.users.find? id).any isAdmin = true) :
    Finishes callSucceeds me (lockAdmins ids)
      (fun adminIds later => adminIds = ids ∧ OnlyLocked me store later) fail
      store := by
  induction ids generalizing store with
  | nil => exact finishes_pure [] ⟨rfl, rfl, rfl, mine⟩
  | cons userId rest inductionHypothesis =>
      have admin := admins userId List.mem_cons_self
      refine finishes_bind (finishes_lockingTransaction (mine.free userId)
        ?_ ?_)
      · intro choice locked next _ body
        rw [if_pos admin] at body
        cases body
        refine finishes_bind (finishes_mono
          (inductionHypothesis (mine.lock userId) fun id member =>
            admins id (List.mem_cons_of_mem userId member))
          ?_ fun _ _ failed => failed)
        rintro others later ⟨rfl, locks⟩
        exact finishes_pure _ ⟨rfl, locks.db, locks.queue, locks.mine⟩
      · intro choice exc _ body
        rw [if_pos admin] at body
        cases body

/-- The guard refuses: the only administrator would stop being one. -/
def Refused (user : User) (nextRole : Option UserRole) (tables : Tables) :
    Prop :=
  user.role = .admin ∧ nextRole ≠ some .admin ∧
    (tables.users.rows.filter isAdmin).length ≤ 1

theorem finishes_ensureAdminRemains {user : User}
    {nextRole : Option UserRole} (mine : LocksMine me store) :
    Finishes callSucceeds me (ensureAdminRemains user nextRole)
      (fun _ later => ¬ Refused user nextRole store.db.tables ∧
        OnlyLocked me store later)
      (fun exc later => exc = lastAdmin ∧
        Refused user nextRole store.db.tables ∧ OnlyLocked me store later)
      store := by
  unfold ensureAdminRemains
  split
  · rename_i unguarded
    refine finishes_pure () ⟨?_, rfl, rfl, mine⟩
    rintro ⟨admin, other, _⟩
    exact unguarded.elim (fun notAdmin => notAdmin admin) other
  · rename_i isGuarded
    rw [not_or, not_not] at isGuarded
    obtain ⟨admin, other⟩ := isGuarded
    refine finishes_bind (finishes_query (finishes_bind (finishes_mono
      (finishes_lockAdmins mine ?_) ?_ fun _ _ failed => failed)))
    · intro id member
      obtain ⟨row, loaded, rfl⟩ := List.mem_map.mp member
      obtain ⟨rowMember, rowAdmin⟩ := List.mem_filter.mp loaded
      rw [Table.find?_of_mem rowMember]
      exact rowAdmin
    · rintro adminIds later ⟨rfl, locks⟩
      rw [List.length_map]
      split
      · rename_i few
        exact finishes_throw _ ⟨rfl, ⟨admin, other, few⟩, locks⟩
      · rename_i enough
        exact finishes_pure () ⟨fun refused => enough refused.2.2, locks⟩

end Guard

section Delete

variable {me : Nat} {store : Store}

theorem commit_ne_lastAdmin {flush : Tables → Except SqlError Tables}
    {exc : Exc} (refused : store.commit flush = .error exc) :
    exc ≠ lastAdmin := by
  unfold Store.commit at refused
  split at refused
  · cases refused
  · cases refused
    simp [lastAdmin]

/-- Alone, the account is deleted unless it does not exist, the guard refuses,
or the tables without it are not admissible. -/
theorem finishes_deleteUser {userId : Id} (mine : LocksMine me store) :
    Finishes callSucceeds me (deleteUser userId)
      (fun _ later => ∃ user, store.db.tables.users.find? userId = some user ∧
        ¬ Refused user none store.db.tables ∧ later.queue = store.queue ∧
        flushDeleteUser user.id (linkedStudent user.id store.db.tables)
          store.db.tables = .ok later.db.tables)
      (fun exc later =>
        (exc = userNotFound ∧ store.db.tables.users.find? userId = none) ∨
        ∃ user, store.db.tables.users.find? userId = some user ∧
          ((exc = lastAdmin ∧ Refused user none store.db.tables ∧
              later.db = store.db) ∨
            (exc ≠ lastAdmin ∧ ¬ Refused user none store.db.tables ∧
              ∀ tables, flushDeleteUser user.id
                (linkedStudent user.id store.db.tables) store.db.tables =
                  .ok tables → ¬ tables.Admissible))) store := by
  refine finishes_bind (finishes_query ?_)
  cases found : store.db.tables.users.find? userId with
  | none => exact finishes_throw _ (.inl ⟨rfl, rfl⟩)
  | some user =>
      refine finishes_bind (finishes_mono (finishes_ensureAdminRemains mine)
        ?_ ?_)
      swap
      · rintro exc later ⟨rfl, refused, locks⟩
        exact .inr ⟨user, rfl, .inl ⟨rfl, refused, locks.db⟩⟩
      rintro _ guarded ⟨passes, locks⟩
      have unchanged (tables : Tables) :
          flushDeleteUser user.id (linkedStudent user.id guarded.db.tables)
              (guarded.releaseLocks me).db.tables = .ok tables ↔
            flushDeleteUser user.id (linkedStudent user.id store.db.tables)
              store.db.tables = .ok tables := by
        change flushDeleteUser user.id
          (linkedStudent user.id guarded.db.tables) guarded.db.tables =
            .ok tables ↔ _
        rw [locks.db]
      refine finishes_bind (finishes_tryCatch (finishes_bind (finishes_query
        (finishes_lockingTransaction (locks.mine.free user.id) ?_ ?_))))
      · intro choice done next _ body
        obtain ⟨db, flushed, rfl⟩ := Store.commit_ok body
        exact finishes_pure userDeleted ⟨user, rfl, passes, locks.queue,
          (unchanged db.tables).mp flushed⟩
      · intro choice exc _ body
        have blocked : ∀ tables, flushDeleteUser user.id
            (linkedStudent user.id store.db.tables) store.db.tables =
              .ok tables → ¬ tables.Admissible := by
          intro tables flushed admissible
          rw [← linkedStudent,
            Store.commit_of_ok ((unchanged tables).mpr flushed) admissible]
            at body
          cases body
        split
        · exact finishes_bind (finishes_command fun _ _ =>
            finishes_throw _ (.inr ⟨user, rfl, .inr
              ⟨by simp [userReferenced, lastAdmin], passes, blocked⟩⟩))
        · exact finishes_throw _ (.inr ⟨user, rfl, .inr
            ⟨commit_ne_lastAdmin body, passes, blocked⟩⟩)

theorem finishes_deletion {userId : Id} {user : User} {tables : Tables}
    (mine : LocksMine me store)
    (found : store.db.tables.users.find? userId = some user)
    (passes : user.role ≠ .admin ∨
      2 ≤ (store.db.tables.users.rows.filter isAdmin).length)
    (flushed : flushDeleteUser user.id
      (linkedStudent user.id store.db.tables) store.db.tables = .ok tables)
    (admissible : tables.Admissible) :
    Finishes callSucceeds me (deleteUser userId)
      (fun _ later => later.db.tables = tables ∧ later.queue = store.queue)
      (fun _ _ => False) store := by
  refine finishes_mono (finishes_deleteUser mine) ?_ ?_
  · rintro _ later ⟨other, isOther, _, queue, becomes⟩
    cases Option.some.inj (found.symm.trans isOther)
    exact ⟨Except.ok.inj (becomes.symm.trans flushed), queue⟩
  · rintro exc later (⟨_, missing⟩ | ⟨other, isOther,
      ⟨_, ⟨admin, _, sole⟩, _⟩ | ⟨_, _, blocked⟩⟩)
    · rw [found] at missing
      cases missing
    · cases Option.some.inj (found.symm.trans isOther)
      rcases passes with notAdmin | two
      · exact notAdmin admin
      · omega
    · cases Option.some.inj (found.symm.trans isOther)
      exact blocked tables flushed admissible

theorem user_lawful {userId : Id} {user : User} (mine : LocksMine me store)
    (found : store.db.tables.users.find? userId = some user)
    (passes : user.role ≠ .admin ∨
      2 ≤ (store.db.tables.users.rows.filter isAdmin).length)
    (keeps : ¬ Nullifies store.db.tables (.user userId)) :
    EndsWith me (.user userId) (Lawful store (.user userId)) store := by
  obtain rfl : user.id = userId := Table.key_of_find? found
  have nobody : linkedStudent user.id store.db.tables = none := by
    unfold linkedStudent
    rw [List.find?_eq_none]
    intro row member refers
    exact keeps ⟨row, member, by simpa using refers⟩
  have flushed : flushDeleteUser user.id
      (linkedStudent user.id store.db.tables) store.db.tables =
        .ok (remove store.db.tables (.user user.id)) := by
    rw [nobody]
    rfl
  refine endsWith_of_finishes (deleteUser user.id) rfl (finishes_mono
    (finishes_deletion mine found passes flushed
      (admissible_remove store.db.admissible _ keeps)) ?_ nofun)
  exact fun _ later ends => lawful_removed keeps ends.1 ends.2

/-- The tables after the student linked to a user has been detached. -/
def unlinked (tables : Tables) (student : Student) : Tables :=
  let version := student.versionId
  { tables with
    students := tables.students.updateWhere
      (fun row => decide (row.id = student.id))
      (unlinkChange.apply version) (unlinkChange.apply_id version) }

theorem admissible_unlinked {tables : Tables} (admissible : tables.Admissible)
    (student : Student) : (unlinked tables student).Admissible := by
  obtain ⟨college, department, teacher, students, course, courseOffering,
    courseSchedule, enrollment, user⟩ := admissible
  have same := StudentChange.apply_id unlinkChange student.versionId
  exact {
    college := college
    department := department
    teacher := teacher
    student := ⟨students.1.clear same fun _ => .inr rfl,
      students.2.1.clear same fun _ => .inl rfl,
      students.2.2.1.clear same fun _ => .inr rfl,
      students.2.2.2.clear same fun _ => .inl rfl⟩
    course := course
    courseOffering := courseOffering
    courseSchedule := courseSchedule
    enrollment := ⟨enrollment.1, enrollment.2.1,
      enrollment.2.2.1.updateParent same, enrollment.2.2.2⟩
    user := user }

/-- At most one student is linked to a user. -/
theorem unlinked_unreferenced {tables : Tables}
    (unique : tables.students.Unique fun row => row.userId)
    {student : Student} {userId : Id}
    (member : student ∈ tables.students.rows)
    (linked : student.userId = some userId) :
    ¬ Referenced (unlinked tables student) (.user userId) := by
  rintro ⟨row, rowMember, refers⟩
  obtain ⟨old, oldMember, rfl⟩ :=
    (Table.mem_updateWhere (StudentChange.apply_id _ _)).mp rowMember
  split at refers
  · cases refers
  · rename_i different
    have equal : old = student :=
      unique.eq_of_value oldMember member refers linked
    exact different (by simp [equal])

theorem user_nullified {userId : Id} {user : User} (mine : LocksMine me store)
    (found : store.db.tables.users.find? userId = some user)
    (passes : user.role ≠ .admin ∨
      2 ≤ (store.db.tables.users.rows.filter isAdmin).length)
    (nullifies : Nullifies store.db.tables (.user userId)) :
    EndsWith me (.user userId)
      (fun result after => ¬ Lawful store (.user userId) result after)
      store := by
  obtain rfl : user.id = userId := Table.key_of_find? found
  cases linked : linkedStudent user.id store.db.tables with
  | none =>
      obtain ⟨row, member, refers⟩ := nullifies
      have notThis := List.find?_eq_none.mp linked row member
      simp [refers] at notThis
  | some student =>
      have member := List.mem_of_find?_eq_some linked
      have refers : student.userId = some user.id := by
        simpa using List.find?_some linked
      have flushed : flushDeleteUser user.id
          (linkedStudent user.id store.db.tables) store.db.tables =
            .ok (remove (unlinked store.db.tables student)
              (.user user.id)) := by
        rw [linked]
        simp only [flushDeleteUser, unlinkStudent, Table.find?_of_mem member,
          Option.any_some, decide_true, if_true]
        rfl
      refine endsWith_of_finishes (deleteUser user.id) rfl (finishes_mono
        (finishes_deletion mine found passes flushed (admissible_remove
          (admissible_unlinked store.db.admissible student) _
          (unlinked_unreferenced store.db.admissible.student.2.1 member
            refers))) ?_ fun _ _ raised => raised.elim)
      exact fun _ later _ => not_lawful_of_ok nullifies

end Delete

end SystemUni.Registrar.UserDeletes
