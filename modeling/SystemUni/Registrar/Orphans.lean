import SystemUni.Registrar.UserDeletes

/-!
# Deletes never orphan, except where they detach
-/

set_option autoImplicit false

namespace SystemUni.Registrar.Orphans

open Interleaving Relational
open SystemUni.Runtime.Errors
open SystemUni.Runtime.Statements
open SystemUni.Runtime.Rules
open SystemUni.Models.Rows
open SystemUni.Models.Schema
open SystemUni.Registrar.References
open SystemUni.Registrar.Deletes
open SystemUni.Registrar.UserDeletes

variable {me : Nat} {store : Store} {target : Target}

/-- Executed alone with every server call succeeding, the call ends as the
law of deletes says. -/
def AlwaysLawful (me : Nat) (store : Store) (target : Target) : Prop :=
  ∀ choices : Nat → Choice, (∀ index, (choices index).call = .done) →
    ∃ result after left,
      (delete target).run.solo me choices store =
        some (result, after, left) ∧ Lawful store target result after

theorem idle_mine (idle : ∀ userId, store.userLocks userId = none) :
    LocksMine me store := by
  intro userId holder held
  rw [idle userId] at held
  cases held

theorem endsWith_lawful (present : Present store.db.tables target)
    (passes : GuardPasses store.db.tables target)
    (idle : ∀ userId, store.userLocks userId = none)
    (keeps : ¬ Nullifies store.db.tables target) :
    EndsWith me target (Lawful store target) store := by
  cases target with
  | college collegeId =>
      obtain ⟨college, found⟩ := Option.isSome_iff_exists.mp present
      exact college_lawful found
  | department departmentId =>
      obtain ⟨department, found⟩ := Option.isSome_iff_exists.mp present
      exact department_lawful found keeps
  | course courseId =>
      obtain ⟨course, found⟩ := Option.isSome_iff_exists.mp present
      exact course_lawful found
  | teacher teacherId =>
      obtain ⟨teacher, found⟩ := Option.isSome_iff_exists.mp present
      exact teacher_lawful found
  | courseOffering courseOfferingId =>
      obtain ⟨courseOffering, found⟩ := Option.isSome_iff_exists.mp present
      exact courseOffering_lawful found
  | student studentId =>
      obtain ⟨student, found⟩ := Option.isSome_iff_exists.mp present
      exact student_lawful found
  | user userId =>
      obtain ⟨user, found⟩ := Option.isSome_iff_exists.mp present
      exact user_lawful (idle_mine idle) found (passes user found) keeps

theorem endsWith_unlawful (present : Present store.db.tables target)
    (passes : GuardPasses store.db.tables target)
    (idle : ∀ userId, store.userLocks userId = none)
    (nullifies : Nullifies store.db.tables target) :
    EndsWith me target
      (fun result after => ¬ Lawful store target result after) store := by
  cases target with
  | department departmentId =>
      obtain ⟨department, found⟩ := Option.isSome_iff_exists.mp present
      exact department_nullified found nullifies
  | user userId =>
      obtain ⟨user, found⟩ := Option.isSome_iff_exists.mp present
      exact user_nullified (idle_mine idle) found (passes user found) nullifies
  | _ => exact absurd nullifies id

/-- What a call does alone is determined by the environment's choices. -/
theorem not_alwaysLawful
    (unlawful : EndsWith me target
      (fun result after => ¬ Lawful store target result after) store) :
    ¬ AlwaysLawful me store target := by
  intro lawful
  obtain ⟨result, after, left, ends, holds⟩ :=
    lawful (fun _ => {}) fun _ => rfl
  obtain ⟨result', after', left', ends', fails⟩ :=
    alone_solo (S := university) _ store unlawful (fun _ => {}) fun _ => rfl
  have same := Option.some.inj (ends.symm.trans ends')
  cases same
  exact fails holds

/-- A delete respects the references to its target exactly when the rows that
refer to it are not all detached: no department whose only dependants are
courses, and no user with a linked student. -/
theorem delete_lawful_iff (target : Target) (me : Nat) (store : Store)
    (present : Present store.db.tables target)
    (passes : GuardPasses store.db.tables target)
    (idle : ∀ userId, store.userLocks userId = none) :
    AlwaysLawful me store target ↔ ¬ Nullifies store.db.tables target := by
  constructor
  · intro lawful nullifies
    exact not_alwaysLawful
      (endsWith_unlawful present passes idle nullifies) lawful
  · intro keeps choices succeed
    exact alone_solo (S := university) _ store
      (endsWith_lawful present passes idle keeps) choices succeed

/-- The only college of the sample has a department. -/
theorem delete_lawful_college : AlwaysLawful 0 sampleStore (.college 1) :=
  (delete_lawful_iff (.college 1) 0 sampleStore rfl trivial fun _ => rfl).mpr
    nofun

/-! ## A department with a course -/

def courseTables : Tables where
  colleges := ⟨[⟨1, "Arts", "ART", 0⟩], by decide⟩
  departments := ⟨[⟨1, "History", "HIST", 0, 1⟩], by decide⟩
  courses := ⟨[⟨1, "Rome", "ROM", 0, some 1⟩], by decide⟩

def courseStore : Store := { db := ⟨courseTables, by decide⟩ }

/-- The department is deleted although a course refers to it. -/
theorem department_deleted_with_course :
    ¬ ∀ (target : Target) (me : Nat) (store : Store),
      Present store.db.tables target → GuardPasses store.db.tables target →
      (∀ userId, store.userLocks userId = none) →
      AlwaysLawful me store target := by
  intro lawful
  have nullifies : Nullifies courseTables (.department 1) :=
    ⟨⟨_, List.mem_singleton_self _, rfl⟩, nofun, nofun⟩
  have unlawful : EndsWith 0 (.department 1) (fun result after =>
      ¬ Lawful courseStore (.department 1) result after) courseStore :=
    department_nullified rfl nullifies
  exact not_alwaysLawful unlawful
    (lawful (.department 1) 0 courseStore rfl trivial fun _ => rfl)

end SystemUni.Registrar.Orphans
