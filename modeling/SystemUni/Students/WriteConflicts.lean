import SystemUni.Interleaving.Linearization
import SystemUni.Interleaving.Reactions
import SystemUni.Students.Links

/-!
# Who loses a race for a student row

An `UPDATE` or `DELETE` of a student names the version that was read.  Where
the row has moved on or is gone, `update_student` and `link_student_to_user`
translate the `StaleDataError`; the two deletions do not.
-/

set_option autoImplicit false

namespace SystemUni.Students.WriteConflicts

open Interleaving Relational
open SystemUni.Runtime.Errors
open SystemUni.Runtime.Statements
open SystemUni.Runtime.Rules
open SystemUni.Models.Rows
open SystemUni.Models.Changes
open SystemUni.Models.Schema
open SystemUni.Crud.User
open SystemUni.Crud.Deletion
open SystemUni.Crud.Student
open SystemUni.Accounts.Service
open SystemUni.Students.Service
open SystemUni.Students.Laws
open SystemUni.Students.Links

/-! ## The race -/

/-- The row is gone or at another version than the one read. -/
def overtaken (read : Student) (tables : Tables) : Bool :=
  !(tables.students.find? read.id).any fun row =>
    decide (row.versionId = read.versionId)

/-- The row whose version the commit names, if it emits such a statement. -/
def versionedRow : Label → Option Student
  | .student (.updateStudent read change _) =>
      if change = {} ∨ change.fits = false then none else some read
  | .student (.deleteStudent read) => some read
  | .account (.deleteUser _ dependent) => dependent
  | _ => none

/-- The database is asked to change a row that has been overtaken. -/
def LosesRace : Condition university := fun label choice store =>
  choice.call = .done ∧ ∃ read, versionedRow label = some read ∧
    overtaken read store.db.tables = true

/-- The two deletions find the row as they have read it. -/
def deletesCurrent : Condition university := fun label _ store =>
  match label with
  | .student (.deleteStudent read) => overtaken read store.db.tables = false
  | .account (.deleteUser _ (some read)) =>
      overtaken read store.db.tables = false
  | _ => True

def isUpdate : Label → Bool
  | .student (.updateStudent _ _ _) => true
  | _ => false

/-- A lost update, as opposed to a lost deletion. -/
def losesUpdate : Condition university := fun label choice store =>
  isUpdate label = true ∧ LosesRace label choice store

theorem losesUpdate_of_loses {label : Label} {choice : Choice} {store : Store}
    (admitted : deletesCurrent label choice store)
    (loses : LosesRace label choice store) :
    losesUpdate label choice store := by
  refine ⟨?_, loses⟩
  obtain ⟨_, read, named, stale⟩ := loses
  unfold versionedRow at named
  split at named
  · rfl
  · cases named
    exact absurd (stale.symm.trans admitted) (by decide)
  · cases named
    exact absurd (stale.symm.trans admitted) (by decide)
  · cases named

/-! ## The requests -/

/-- The requests that write a student row which is there. -/
inductive RacingRequest : Py StudentAnswer → Prop where
  | updateStudent (studentUpdate : StudentUpdate) (studentId : Id) :
      RacingRequest (answerDone (serve (updateStudent studentUpdate studentId)))
  | linkStudentToUser (studentId userId : Id) :
      RacingRequest (answerDone (serve (linkStudentToUser studentId userId)))
  | deleteStudent (studentId : Id) :
      RacingRequest (answerDone (serve (deleteStudent studentId)))
  | deleteUser (userId : Id) :
      RacingRequest (answerDone (serve (deleteUser userId)))

/-- None of them starts another program. -/
def raceSystem : System university (Except Exc StudentAnswer) where
  start _ program := RacingRequest program
  code _ := .ret (.ok .done)

abbrev database (store : Store) : Database := store.db

/-- An `HTTPException` with a 4xx status. -/
def ConflictReported (exc : Exc) : Prop :=
  ∃ statusCode detail, exc = .httpException statusCode detail ∧
    400 ≤ statusCode ∧ statusCode < 500

abbrev RaceReacts {α : Type} (program : Py α) : Prop :=
  Reacts losesUpdate database program (fun _ => False) ConflictReported

/-! ## Statements that are no update -/

section Statements

variable {α : Type}

theorem never_other {me : Nat} {label : Label} {choice : Choice}
    {before after : Store} (other : isUpdate label = false) :
    never losesUpdate me label choice before after := by
  rintro ⟨update, _⟩
  rw [other] at update
  cases update

theorem invalidating_never : Invalidating (never losesUpdate) where
  query _ _ _ := never_other rfl
  internal _ _ _ := never_other rfl
  lock _ _ _ _ := ⟨never_other rfl, never_other rfl⟩
  release _ _ _ := never_other rfl
  invalidate _ _ _ _ _ _ _ := never_other rfl

theorem deleting_never : Deleting (never losesUpdate) where
  toInvalidating := invalidating_never
  deleteStudent _ _ _ _ _ := never_other rfl

theorem locking_never : Locking (never losesUpdate) :=
  invalidating_never.toLocking

theorem removing_never : Removing (never losesUpdate) where
  toLocking := locking_never
  deleteUser _ _ _ _ _ := never_other rfl

theorem reading_never : Reading (never losesUpdate) :=
  locking_never.toReading

end Statements

/-! ## What a lost update is answered -/

section Answers

variable {α : Type}

theorem concluding_rollback {post : Unit → Prop} {fail : Exc → Prop}
    (holds : post ()) : Concludes database rollback post fail :=
  fun _ _ _ => ⟨rfl, rfl, holds⟩

theorem concluding_reraise {exc : Exc} {post : α → Prop} {fail : Exc → Prop}
    (holds : fail exc) :
    Concludes database (do
      rollback
      throw exc : Py α) post fail :=
  concluding_bind (concluding_rollback (concluding_throw holds))

/-- `StaleDataError`. -/
def IsStale (exc : Exc) : Prop :=
  exc = .sql .staleDataError SqlError.staleDataError.typeName

theorem studentModified_reported : ConflictReported studentModified :=
  ⟨409, _, rfl, by decide, by decide⟩

/-- The version check is the first thing that a lost update fails. -/
theorem flushStudent_lost {student : Student} {change : StudentChange}
    {carried : Option Nat} {choice : Choice} {store : Store}
    (loses : LosesRace (.student (.updateStudent student change carried))
      choice store) :
    flushStudent student change store.db.tables = .error .staleDataError := by
  obtain ⟨_, read, named, stale⟩ := loses
  simp only [versionedRow] at named
  split at named
  · cases named
  · rename_i written
    cases named
    simp only [not_or, Bool.not_eq_false] at written
    simp only [overtaken, Bool.not_eq_true'] at stale
    simp [flushStudent, written.1, written.2, stale]

theorem reacting_commitStudent (student : Student) (change : StudentChange)
    (carried : Option Nat) :
    Reacts losesUpdate database (commitStudent student change carried)
      (fun _ => False) IsStale := by
  intro me choice store _
  refine ⟨?_, .inr trivial⟩
  rintro ⟨_, loses⟩
  have done := loses.1
  have refused : store.commit (flushStudent student change) =
      .error (.sql .staleDataError SqlError.staleDataError.typeName) :=
    Store.commit_of_error (flushStudent_lost loses)
  change database (written choice.call
        (store.commit (flushStudent student change)) store) = store.db ∧
      Prog.Concludes (S := university) database (answersWith (fun _ => False) IsStale)
        (.ret (answered choice.call
          (store.commit (flushStudent student change))))
  rw [done, refused]
  exact ⟨rfl, rfl⟩

theorem reacting_getDb {request : Py α} (reacts : RaceReacts request) :
    RaceReacts (getDb request) := by
  refine reacting_bind_right (reacting_tryCatch (reacting_tryCatch
    (reacting_mono reacts (fun _ impossible => impossible.elim) ?_)
    fun _ => lawful_reraise locking_never) fun _ => lawful_reraise locking_never) ?_
  · intro exc reported
    exact concluding_reraise (concluding_reraise reported)
  · exact fun _ => lawful_bind (lawful_rollback locking_never) fun _ => lawful_pure

theorem reacting_serve {request : Py α} (reacts : RaceReacts request) :
    RaceReacts (answerDone (serve request)) := by
  refine reacting_bind_right (reacting_mono (reacting_getDb
    (reacting_bind_right (reacting_mono reacts
      (fun _ impossible => impossible.elim) fun _ reported => reported)
      fun _ => lawful_pure))
    (fun _ impossible => impossible.elim) fun _ reported => reported)
    fun _ => lawful_pure

theorem reacting_updateStudent (studentUpdate : StudentUpdate)
    (studentId : Id) : RaceReacts (updateStudent studentUpdate studentId) := by
  refine reacting_bind_left leaves_query (lawful_query reading_never) fun found => ?_
  cases found with
  | none => exact reacting_of_lawful lawful_throw
  | some student =>
      simp only
      split
      · exact reacting_of_lawful lawful_throw
      refine reacting_bind_right (reacting_tryCatch
        (reacting_bind_right (reacting_mono
          (reacting_commitStudent student _ _)
          (fun _ impossible => impossible.elim) ?_)
          fun _ => lawful_refreshStudent reading_never student.id) ?_) ?_
      · rintro exc rfl
        exact concluding_reraise studentModified_reported
      · exact lawful_handled locking_never handles_studentErrors
      · exact fun _ => lawful_bind (lawful_invalidate invalidating_never studentId _)
          fun _ => lawful_pure

theorem reacting_linkStudentToUser (studentId userId : Id) :
    RaceReacts (linkStudentToUser studentId userId) := by
  refine reacting_bind_left leaves_query (lawful_query reading_never) fun found => ?_
  cases found with
  | none => exact reacting_of_lawful lawful_throw
  | some student =>
      refine reacting_bind_left leaves_query (lawful_query reading_never) fun user => ?_
      cases user with
      | none => exact reacting_of_lawful lawful_throw
      | some user =>
          simp only
          split
          · exact reacting_of_lawful lawful_throw
          refine reacting_bind_left leaves_query (lawful_query reading_never) fun linked => ?_
          split
          · exact reacting_of_lawful lawful_throw
          refine reacting_bind_right (reacting_tryCatch
            (reacting_bind_right (reacting_mono
              (reacting_commitStudent student _ _)
              (fun _ impossible => impossible.elim) ?_) ?_) ?_) ?_
          · rintro exc rfl
            exact concluding_reraise studentModified_reported
          · exact fun _ => lawful_bind (lawful_refreshStudent reading_never student.id)
              fun _ => lawful_bind (lawful_refreshUser reading_never user.id)
                fun _ => lawful_pure
          · exact lawful_handled locking_never handles_linkErrors
          · exact fun updated => lawful_bind (lawful_invalidate invalidating_never updated.id _)
              fun _ => lawful_pure

end Answers

/-! ## Runs -/

theorem raceSystem_reacts :
    raceSystem.Reacts losesUpdate database
      (answersWith (fun _ => False) ConflictReported) where
  starts _ program starts := by
    cases starts with
    | updateStudent studentUpdate studentId =>
        exact reacting_serve (reacting_updateStudent studentUpdate studentId)
    | linkStudentToUser studentId userId =>
        exact reacting_serve (reacting_linkStudentToUser studentId userId)
    | deleteStudent studentId =>
        exact reacting_of_lawful (lawful_answerDone (lawful_serve locking_never
          (lawful_deleteStudent deleting_never studentId)))
    | deleteUser userId =>
        exact reacting_of_lawful (lawful_answerDone (lawful_serve locking_never
          (lawful_deleteUser removing_never userId)))
  children _ := trivial

/-- As long as no deletion is overtaken, a request that loses a race has
changed nothing before, changes nothing in the commit it loses and is bound to
answer an `HTTPException` with a 4xx status without a further change. -/
theorem write_conflicts_reported (store : Store)
    (config next last : Config university (Except Exc StudentAnswer))
    (thread : Nat) (label : Label) (choice : Choice)
    (reachable : Reachable raceSystem deletesCurrent store config)
    (transition : Transition raceSystem config (.act thread label choice) next)
    (admitted : deletesCurrent label choice config.store)
    (loses : LosesRace label choice config.store)
    (run : Run raceSystem deletesCurrent next last) :
    (∀ (first second : Config university (Except Exc StudentAnswer))
      (earlier : Label) (earlierChoice : Choice),
      Reachable raceSystem deletesCurrent store first →
      Transition raceSystem first (.act thread earlier earlierChoice) second →
      Run raceSystem deletesCurrent second config →
      second.store.db = first.store.db) ∧
    next.store.db = config.store.db ∧
    ∃ rest, last.threads[thread]? = some rest ∧
      rest.Concludes (S := university) database
        (answersWith (fun _ => False) ConflictReported) := by
  have happens := losesUpdate_of_loses admitted loses
  obtain ⟨same, concludes⟩ := raceSystem_reacts.concludes reachable transition
    happens run
  refine ⟨?_, same, concludes⟩
  intro first second earlier earlierChoice toFirst before between
  exact raceSystem_reacts.untouched toFirst before between transition happens

/-! ## An update beside another one and beside the deletions -/

instance (label : Label) (choice : Choice) (store : Store) :
    Decidable (deletesCurrent label choice store) := by
  unfold deletesCurrent
  split <;> infer_instance

def racing : Config university (Except Exc StudentAnswer) where
  store := linkedStore
  threads := [answerDone (serve (updateStudent { name := some "Ali" } 1)),
    answerDone (serve (updateStudent { name := some "Omar" } 1)),
    answerDone (serve (deleteStudent 1)),
    answerDone (serve (deleteUser 2))]

def raced (threads : List Nat)
    (config : Config university (Except Exc StudentAnswer)) :
    Config university (Except Exc StudentAnswer) :=
  config.played raceSystem accept (plain threads)

/-- All have read the student; the first has committed. -/
def firstUpdated : Config university (Except Exc StudentAnswer) :=
  raced [0, 1, 2, 2, 3, 3, 0] racing

theorem racing_reachable (condition : Condition university) :
    Reachable raceSystem condition linkedStore racing := by
  refine arrivals_run _ _ _ racing.threads ?_
  intro program member
  simp only [racing, List.mem_cons, List.not_mem_nil, or_false] at member
  rcases member with rfl | rfl | rfl | rfl
  · exact .updateStudent { name := some "Ali" } 1
  · exact .updateStudent { name := some "Omar" } 1
  · exact .deleteStudent 1
  · exact .deleteUser 2

theorem raced_transition {thread : Nat} {label : Label}
    {config : Config university (Except Exc StudentAnswer)}
    (possible :
      (config.turn raceSystem accept ⟨thread, {}⟩).isSome = true)
    (named : config.nextLabel thread = some label) :
    Transition raceSystem config (.act thread label {})
      (raced [thread] config) :=
  config.played_transition raceSystem accept ⟨thread, {}⟩ possible named

theorem raced_run (threads : List Nat)
    (config : Config university (Except Exc StudentAnswer))
    (possible : (config.play raceSystem accept (plain threads)).isSome = true) :
    Run raceSystem anything config (raced threads config) :=
  config.played_run raceSystem accept anything (fun _ _ _ _ => trivial)
    (plain threads) possible

/-- The second update is overtaken by the first. -/
theorem write_conflicts_reported_update :
    ∃ rest, (raced [1] firstUpdated).threads[1]? = some rest ∧
      rest.Concludes (S := university) database
        (answersWith (fun _ => False) ConflictReported) := by
  have run : Run raceSystem deletesCurrent racing firstUpdated :=
    racing.played_run raceSystem
      (fun label choice store => decide (deletesCurrent label choice store))
      deletesCurrent (fun _ _ _ holds => of_decide_eq_true holds)
      (plain [0, 1, 2, 2, 3, 3, 0]) (by decide +kernel)
  exact (write_conflicts_reported linkedStore firstUpdated
    (raced [1] firstUpdated) (raced [1] firstUpdated) 1
    (.student (.updateStudent linkedSample { name := some "Omar" } none)) {}
    ((racing_reachable deletesCurrent).trans run)
    (raced_transition (by decide +kernel) (by decide +kernel)) trivial
    ⟨rfl, linkedSample, by decide +kernel, by decide +kernel⟩
    (.refl _)).2.2

/-- Both deletions are overtaken by the update, and end in an unhandled
`StaleDataError`. -/
theorem overtaken_deletions_unreported :
    Reachable raceSystem anything linkedStore firstUpdated ∧
    (∃ label, Transition raceSystem firstUpdated (.act 2 label {})
        (raced [2] firstUpdated) ∧
      LosesRace label {} firstUpdated.store ∧
      Run raceSystem anything (raced [2] firstUpdated)
        (raced [2, 2] (raced [2] firstUpdated)) ∧
      (raced [2, 2] (raced [2] firstUpdated)).answer? 2 =
        some (.error (.sql .staleDataError "StaleDataError"))) ∧
    (∃ label, Transition raceSystem firstUpdated (.act 3 label {})
        (raced [3] firstUpdated) ∧
      LosesRace label {} firstUpdated.store ∧
      Run raceSystem anything (raced [3] firstUpdated)
        (raced [3, 3] (raced [3] firstUpdated)) ∧
      (raced [3, 3] (raced [3] firstUpdated)).answer? 3 =
        some (.error (.sql .staleDataError "StaleDataError"))) ∧
    ¬ ConflictReported (.sql .staleDataError "StaleDataError") := by
  refine ⟨(racing_reachable anything).trans
    (raced_run [0, 1, 2, 2, 3, 3, 0] racing (by decide +kernel)), ?_, ?_, ?_⟩
  · refine ⟨.student (.deleteStudent linkedSample),
      raced_transition (by decide +kernel) (by decide +kernel),
      ⟨rfl, _, rfl, by decide +kernel⟩, ?_, by decide +kernel⟩
    exact raced_run [2, 2] _ (by decide +kernel)
  · refine ⟨.account (.deleteUser sampleUser (some linkedSample)),
      raced_transition (by decide +kernel) (by decide +kernel),
      ⟨rfl, _, rfl, by decide +kernel⟩, ?_, by decide +kernel⟩
    exact raced_run [3, 3] _ (by decide +kernel)
  · rintro ⟨statusCode, detail, same, _⟩
    cases same

end SystemUni.Students.WriteConflicts
