import SystemUni.Students.Service

/-!
# No lost student update

The version column decides: a flush applies to the row at the version it was
loaded at, and every write moves the version on.  Whatever the four writers of
the table do in between, no committed write is computed from an older row.
-/

set_option autoImplicit false

namespace SystemUni.Students.LostUpdates

open Interleaving Relational
open SystemUni.Runtime.Errors
open SystemUni.Runtime.External
open SystemUni.Runtime.Statements
open SystemUni.Models.Rows
open SystemUni.Models.Changes
open SystemUni.Models.Schema
open SystemUni.Crud.Student
open SystemUni.Accounts.Service
open SystemUni.Students.Discipline
open SystemUni.Students.Service

/-- The version the request itself carried. -/
def carriedVersion : Label → Option Nat
  | .student (.updateStudent _ _ carried) => carried
  | _ => none

/-- The row the request read before the statement. -/
def readRow : Label → Option Student
  | .student (.updateStudent read _ _) => some read
  | .student (.deleteStudent read) => some read
  | .account (.deleteUser _ dependent) => dependent
  | _ => none

theorem reads_of_write {read : Student} {label : Label}
    {change : StudentChange} (computed : StudentWrite read label change) :
    readRow label = some read := by
  cases computed <;> rfl

section Row

variable {label : Label} {before after : Option Student}

theorem versions_of_step (step : RowStep label before after)
    {row next : Student} (found : before = some row)
    (becomes : after = some next) :
    next = row ∨ next.versionId = row.versionId + 1 := by
  cases step with
  | kept =>
      rw [found] at becomes
      exact .inl (Option.some.inj becomes).symm
  | written read change computed =>
      cases found
      cases becomes
      exact .inr rfl
  | deleted read deletes => cases becomes

/-- A request that carried a version writes the row at that version or not at
all; a deletion carries none. -/
theorem carried_of_step (step : RowStep label before after) {version : Nat}
    (carries : carriedVersion label = some version)
    (changes : after ≠ before) :
    ∃ row next, before = some row ∧ after = some next ∧
      row.versionId = version ∧ next.versionId = version + 1 := by
  cases step with
  | kept => exact absurd rfl changes
  | written read change computed =>
      cases computed with
      | updateStudent studentUpdate agrees =>
          have same := agrees version carries
          subst same
          exact ⟨read, _, rfl, rfl, rfl, rfl⟩
      | linkStudentToUser userId unlinked => cases carries
      | deleteUser user linked => cases carries
  | deleted read deletes =>
      subst deletes
      cases carries

theorem loses_of_step (step : RowStep label before after) {read : Student}
    (reads : readRow label = some read) (overtaken : before ≠ some read) :
    after = before := by
  cases step with
  | kept => rfl
  | written current change computed =>
      have same := (reads_of_write computed).symm.trans reads
      exact absurd same overtaken
  | deleted current deletes =>
      subst deletes
      exact absurd reads overtaken

end Row

variable (libraries : Libraries) (settings : Settings)

theorem student_disciplined {initial : Store}
    {config : Config university (Except Exc StudentAnswer)}
    (reachable : Reachable (studentSystem libraries settings) anything initial
      config) :
    Disciplined (studentDiscipline libraries False) (soundAnswer False)
      config :=
  (student_obeys settings nofun).sound nofun
    (reachable.weaken fun _ _ _ _ => nofun)

theorem run_progress {initial : Store}
    {first last : Config university (Except Exc StudentAnswer)}
    (reachable : Reachable (studentSystem libraries settings) anything initial
      first)
    (run : Run (studentSystem libraries settings) anything first last) :
    Progress (students first.store) (students last.store) := by
  refine run.relates (fun before after =>
    Progress (students before) (students after)) (fun _ => .refl _)
    (fun before after => before.trans after) ?_
  intro middle next thread label choice earlier transition _
  have here := student_disciplined libraries settings
    (reachable.trans earlier)
  exact (here.guaranteed transition nofun).2.1.progress

/-- Every committed write of a student row is computed from the row as it was
committed right before and moves its version on by one; a request that carried
a version changes the row at that version only, and no second one does; a
request whose row has been overtaken leaves it as it was. -/
theorem no_lost_update (initial : Store)
    (config next : Config university (Except Exc StudentAnswer))
    (reachable : Reachable (studentSystem libraries settings) anything initial
      config)
    (thread : Nat) (label : Label) (choice : Choice)
    (transition : Transition (studentSystem libraries settings) config
      (.act thread label choice) next)
    (studentId : Id) (before after : Option Student)
    (isBefore : (students config.store).find? studentId = before)
    (isAfter : (students next.store).find? studentId = after) :
    RowStep label before after ∧
    (∀ row new, before = some row → after = some new →
      new = row ∨ new.versionId = row.versionId + 1) ∧
    (∀ version, carriedVersion label = some version → after ≠ before →
      (∃ row, before = some row ∧ row.versionId = version) ∧
      ∀ (earlier later : Config university (Except Exc StudentAnswer))
        (other : Nat) (otherLabel : Label) (otherChoice : Choice),
        Run (studentSystem libraries settings) anything next earlier →
        Transition (studentSystem libraries settings) earlier
          (.act other otherLabel otherChoice) later →
        carriedVersion otherLabel = some version →
        (students later.store).find? studentId =
          (students earlier.store).find? studentId) ∧
    (∀ read, readRow label = some read → before ≠ some read →
      after = before) := by
  have here := student_disciplined libraries settings reachable
  have step : RowStep label before after := by
    rw [← isBefore, ← isAfter]
    exact (here.guaranteed transition nofun).2.1.row studentId
  refine ⟨step, fun row new => versions_of_step step, ?_,
    fun read => loses_of_step step⟩
  intro version carries changes
  obtain ⟨row, new, wasRow, isNew, atVersion, moved⟩ :=
    carried_of_step step carries changes
  refine ⟨⟨row, wasRow, atVersion⟩, ?_⟩
  intro earlier later other otherLabel otherChoice run second carriesToo
  have reachableNext : Reachable (studentSystem libraries settings) anything
      initial next := .step reachable transition trivial
  have there := student_disciplined libraries settings
    (reachableNext.trans run)
  have secondStep := (there.guaranteed second nofun).2.1.row studentId
  by_contra changesToo
  -- the row would have to be back at the version it has left behind
  obtain ⟨stale, _, isStale, _, staleVersion, _⟩ :=
    carried_of_step secondStep carriesToo changesToo
  obtain ⟨old, isOld, grows, _⟩ :=
    run_progress libraries settings reachableNext run studentId stale isStale
  have same : old = new :=
    Option.some.inj (isOld.symm.trans (isAfter.trans isNew))
  subst same
  omega

/-! ## Two overlapping updates -/

/-- Two renamings of the same student. -/
def overlapping : Config university (Except Exc StudentAnswer) where
  store := sampleStore
  threads := [answerDone (serve (updateStudent { name := some "Ali" } 1)),
    answerDone (serve (updateStudent { name := some "Omar" } 1))]

/-- Both have read the student at version 1. -/
def bothRead : Config university (Except Exc StudentAnswer) :=
  overlapping.played (studentSystem sampleLibraries .default) accept
    (plain [0, 1])

def firstCommitted : Config university (Except Exc StudentAnswer) :=
  bothRead.played (studentSystem sampleLibraries .default) accept (plain [0])

def secondTried : Config university (Except Exc StudentAnswer) :=
  firstCommitted.played (studentSystem sampleLibraries .default) accept
    (plain [1])

theorem firstCommitted_reachable :
    Reachable (studentSystem sampleLibraries .default) anything sampleStore
      firstCommitted := by
  have arrived : Reachable (studentSystem sampleLibraries .default) anything
      sampleStore overlapping := by
    refine arrivals_run _ _ _ overlapping.threads ?_
    intro program member
    simp only [overlapping, List.mem_cons, List.not_mem_nil,
      or_false] at member
    rcases member with rfl | rfl
    · exact .updateStudent { name := some "Ali" } 1
    · exact .updateStudent { name := some "Omar" } 1
  have reads := Config.played_run (studentSystem sampleLibraries .default)
    accept anything (fun _ _ _ _ => trivial) (plain [0, 1])
    overlapping (by decide +kernel)
  have commits := Config.played_run (studentSystem sampleLibraries .default)
    accept anything (fun _ _ _ _ => trivial) (plain [0]) bothRead
    (by decide +kernel)
  exact (arrived.trans reads).trans commits

theorem second_transition :
    Transition (studentSystem sampleLibraries .default) firstCommitted
      (.act 1 (.student (.updateStudent sampleStudent { name := some "Omar" }
        none)) {}) secondTried :=
  firstCommitted.played_transition (studentSystem sampleLibraries .default)
    accept ⟨1, {}⟩ (by decide +kernel) (by decide +kernel)

/-- The second update has been overtaken and leaves the row to the first. -/
theorem no_lost_update_overtaken :
    ((students secondTried.store).find? 1).map (fun row => row.name) =
      some "Ali" := by
  have kept := (no_lost_update sampleLibraries .default sampleStore
    firstCommitted secondTried firstCommitted_reachable 1 _ {}
    second_transition 1 _ _ rfl rfl).2.2.2 sampleStudent rfl
    (by decide +kernel)
  rw [kept]
  decide +kernel

end SystemUni.Students.LostUpdates
