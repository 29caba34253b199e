import SystemUni.Students.Laws

/-!
# What writes of users and students leave alone

Such a request commits to the database and invalidates the cache.  The job
queue and the reports are not among its tables.
-/

set_option autoImplicit false

namespace SystemUni.Students.Frame

open Interleaving
open SystemUni.Runtime.Errors
open SystemUni.Runtime.External
open SystemUni.Runtime.Statements
open SystemUni.Runtime.Rules
open SystemUni.Models.Rows
open SystemUni.Models.Changes
open SystemUni.Models.Schema
open SystemUni.Crud.User
open SystemUni.Crud.Deletion
open SystemUni.Crud.Student
open SystemUni.Accounts.Frame
open SystemUni.Students.Laws

/-- A view of the store that neither the tables of `Database` nor the cache are
part of. -/
structure BesideDatabase {ν : Type} (view : Store → ν) : Prop
    extends BesideLocks view where
  tables : ∀ (store : Store) (db : Database),
    view (store.setTables db) = view store
  cache : ∀ (store : Store) (cache : Id → Option CacheEntry)
    (returned : List (Id × WriteMark)),
    view { store with cache := cache, returned := returned } = view store

section Leaves

variable {ν α : Type} {view : Store → ν} {libraries : Libraries}

theorem BesideDatabase.toBesideUsers (beside : BesideDatabase view) :
    BesideUsers view where
  toBesideLocks := beside.toBesideLocks
  saved store _ _ db _ := beside.tables store db

theorem queue_besideDatabase : BesideDatabase Store.queue where
  lock _ _ _ := rfl
  release _ _ := rfl
  tables _ _ := rfl
  cache _ _ _ := rfl

theorem leaves_refreshStudent (studentId : Id) :
    Leaves view (refreshStudent studentId) := by
  refine leaves_bind leaves_query fun found => ?_
  cases found with
  | none => exact leaves_throw
  | some row => exact leaves_pure

/-- It is enough that inserted users do not show. -/
theorem leaves_registerUser (beside : BesideLocks view)
    (inserted : ∀ (store : Store) (user : User) (db : Database),
      insertUser user store.db.tables = .ok db.tables →
        view (store.setTables db) = view store) (user : UserRegister) :
    Leaves view (registerUser libraries user) := by
  refine leaves_bind (leaves_bind leaves_observe fun _ => leaves_pure)
    fun passwordHash => ?_
  refine leaves_tryCatch ?_ (leaves_handled beside handles_userErrors)
  refine leaves_bind (leaves_transaction ?_)
    fun newUser => leaves_refreshUser newUser.id
  intro choice store row next body
  obtain ⟨done, committed, becomes⟩ := mapped_ok body
  cases becomes
  obtain ⟨db, flushed, same⟩ := Store.commit_ok committed
  rw [same]
  exact inserted store _ db flushed

variable (beside : BesideDatabase view)

include beside

theorem invalidating_leaving : Invalidating (leaving view) where
  query _ _ _ := rfl
  internal _ _ _ := rfl
  lock me _ store userId := ⟨rfl, beside.lock store me userId⟩
  release me _ store := beside.release store me
  invalidate _ _ store _ _ cache _ := beside.cache store cache _

theorem written_commit (call : CallOutcome) (store : Store)
    (flush : Tables → Except SqlError Tables) :
    view (written call (store.commit flush) store) = view store := by
  rcases written_cases call (store.commit flush) store with
    same | ⟨done, next, body, same⟩
  · rw [same]
  · rw [same]
    obtain ⟨db, _, rfl⟩ := Store.commit_ok body
    exact beside.tables store db

theorem updating_leaving : Updating (leaving view) where
  toInvalidating := invalidating_leaving beside
  update _ choice store _ _ _ := written_commit beside choice.call store _

theorem deleting_leaving : Deleting (leaving view) where
  toInvalidating := invalidating_leaving beside
  deleteStudent _ choice store _ _ := written_commit beside choice.call store _

theorem removing_leaving : Removing (leaving view) where
  toLocking := (invalidating_leaving beside).toLocking
  deleteUser me choice store user dependent := by
    change view (written choice.call ((store.releaseLocks me).commit
      (flushDeleteUser user.id dependent)) store) = view store
    rcases written_cases choice.call ((store.releaseLocks me).commit
      (flushDeleteUser user.id dependent)) store with
      same | ⟨done, next, body, same⟩
    · rw [same]
    · rw [same]
      obtain ⟨db, _, rfl⟩ := Store.commit_ok body
      exact (beside.tables (store.releaseLocks me) db).trans
        (beside.release store me)

/-! ## Users and students -/

theorem leaves_deleteUser (userId : Id) : Leaves view (deleteUser userId) :=
  Prog.follows_leaving.mp (lawful_deleteUser (removing_leaving beside) userId)

theorem leaves_updateStudent (studentUpdate : StudentUpdate) (studentId : Id) :
    Leaves view (updateStudent studentUpdate studentId) :=
  Prog.follows_leaving.mp
    (lawful_updateStudent (updating_leaving beside) studentUpdate studentId)

theorem leaves_linkStudentToUser (studentId userId : Id) :
    Leaves view (linkStudentToUser studentId userId) :=
  Prog.follows_leaving.mp
    (lawful_linkStudentToUser (updating_leaving beside) studentId userId)

theorem leaves_deleteStudent (studentId : Id) :
    Leaves view (deleteStudent studentId) :=
  Prog.follows_leaving.mp
    (lawful_deleteStudent (deleting_leaving beside) studentId)

end Leaves

end SystemUni.Students.Frame
