import SystemUni.Students.Service

/-!
# No stale student read after a write has returned

A write deletes the cache entry after its commit and returns.  A reader that
took its row from the database before that commit and stores it only after the
deletion leaves an entry that is older than the write; without such a reader
the cache is as fresh as the writes that have returned.
-/

set_option autoImplicit false

namespace SystemUni.Students.StaleReads

open Interleaving
open SystemUni.Runtime.Errors
open SystemUni.Runtime.External
open SystemUni.Runtime.Statements
open SystemUni.Runtime.Rules
open SystemUni.Models.Rows
open SystemUni.Models.Changes
open SystemUni.Models.Schema
open SystemUni.Crud.Student
open SystemUni.Accounts.Service
open SystemUni.Students.Discipline
open SystemUni.Students.Requests
open SystemUni.Students.Service

def redisAvailable : Condition university :=
  fun _ choice _ => choice.redisUp = true

/-- No reader stores a row that it read before a write which has already
deleted the entry. -/
def storesFresh : Condition university :=
  fun label choice store =>
    redisAvailable label choice store ∧ storesStale label store = false

/-- A read of a student answers nothing older than any write of the student
that had returned when the read started; after a deletion it answers
nothing. -/
theorem no_stale_read (libraries : Libraries) (settings : Settings)
    (loads : LoadsDumped libraries) (initial : Store)
    (nothing : initial.returned = [])
    (config : Config university (Except Exc StudentAnswer))
    (reachable : Reachable (studentSystem libraries settings) storesFresh
      initial config)
    (studentId : Id) (started : List (Id × WriteMark))
    (response : StudentResponse)
    (answered : Prog.ret (.ok (.read studentId started response)) ∈
      config.threads) :
    ∀ mark, (studentId, mark) ∈ started →
      ∃ version, mark = .version version ∧ version ≤ response.versionId := by
  have noMarks : ∀ otherId versionId,
      FreshFor initial.returned otherId versionId := by
    intro otherId versionId mark member
    rw [nothing] at member
    cases member
  have invariant : True → CacheFresh libraries initial := fun _ =>
    ⟨fun otherId row _ => noMarks otherId row.versionId,
      fun otherId _ loaded _ _ => noMarks otherId loaded.versionId⟩
  have run : Reachable (studentSystem libraries settings)
      (studentDiscipline libraries True).ok initial config :=
    reachable.weaken fun _ _ _ fresh _ => fresh
  have disciplined := (student_obeys settings fun _ => loads).sound invariant
    run
  have sound : Answers True started studentId response :=
    disciplined.finished answered
  intro mark member
  have allowed := sound trivial mark member
  cases mark with
  | version version => exact ⟨version, rfl, allows_version.mp allowed⟩
  | deleted => cases allowed

/-! ## Runs -/

theorem loads_dumped : LoadsDumped sampleLibraries := by
  intro response loaded dumped
  simp only [sampleLibraries] at dumped
  by_cases sample : response = .ofRow sampleStudent
  · rw [if_pos sample] at dumped
    simp only [if_true, Option.some.injEq] at dumped
    rw [← dumped, sample]
  · rw [if_neg sample] at dumped
    simp at dumped

/-- An update between two reads. -/
def readAndUpdate : Config university (Except Exc StudentAnswer) where
  store := sampleStore
  threads := [serveRead sampleLibraries 1 sampleAdmin,
    answerDone (serve (updateStudent { name := some "Ali" } 1)),
    serveRead sampleLibraries 1 sampleAdmin]

theorem readAndUpdate_reachable {condition : Condition university} :
    Reachable (studentSystem sampleLibraries .default) condition sampleStore
      readAndUpdate := by
  refine arrivals_run _ _ _ readAndUpdate.threads ?_
  intro program member
  simp only [readAndUpdate, List.mem_cons, List.not_mem_nil, or_false] at member
  rcases member with rfl | rfl | rfl
  · exact .readStudent 1 sampleAdmin
  · exact .updateStudent { name := some "Ali" } 1
  · exact .readStudent 1 sampleAdmin

def inOrder : List (Turn university) :=
  plain [0, 0, 0, 0, 0, 0, 1, 1, 1, 1, 1, 2, 2, 2, 2, 2, 2]

def isFresh (label : Label) (choice : Choice) (store : Store) : Bool :=
  choice.redisUp && !storesStale label store

def renamed : Config university (Except Exc StudentAnswer) :=
  readAndUpdate.played (studentSystem sampleLibraries .default) isFresh inOrder

theorem renamed_reachable :
    Reachable (studentSystem sampleLibraries .default) storesFresh sampleStore
      renamed := by
  refine readAndUpdate_reachable.trans (Config.played_run _ isFresh storesFresh
    ?_ inOrder readAndUpdate (by decide +kernel))
  intro label choice store fresh
  simpa [isFresh, storesFresh, redisAvailable] using fresh

def renamedResponse : StudentResponse :=
  .ofRow { sampleStudent with name := "Ali", versionId := 2 }

theorem no_stale_read_renamed :
    ∃ version, WriteMark.version 2 = .version version ∧
      version ≤ renamedResponse.versionId :=
  no_stale_read sampleLibraries .default loads_dumped sampleStore rfl renamed
    renamed_reachable 1 [(1, .version 2)] renamedResponse
    (finished_mem 2 (by decide +kernel)) (.version 2) (by simp)

/-- The first reader reads the row before the commit and stores it after the
deletion; the second starts when the update has returned. -/
def overlap : List (Turn university) :=
  plain [0, 0, 0, 0, 1, 1, 1, 1, 1, 0, 2, 2, 2, 2]

def isUp (_ : Label) (choice : Choice) (_ : Store) : Bool := choice.redisUp

def repopulated : Config university (Except Exc StudentAnswer) :=
  readAndUpdate.played (studentSystem sampleLibraries .default) isUp overlap

theorem repopulated_reachable :
    Reachable (studentSystem sampleLibraries .default) redisAvailable
      sampleStore repopulated :=
  readAndUpdate_reachable.trans
    (Config.played_run (studentSystem sampleLibraries .default) isUp
      redisAvailable (fun _ _ _ up => up) overlap readAndUpdate
      (by decide +kernel))

/-- With Redis available throughout, a read that starts after an update has
returned still answers the row as it was before. -/
theorem reader_repopulates_cache :
    ¬ ∀ (libraries : Libraries) (settings : Settings),
      LoadsDumped libraries → ∀ initial : Store, initial.returned = [] →
      (∀ studentId, initial.cache studentId = none) →
      ∀ config : Config university (Except Exc StudentAnswer),
      Reachable (studentSystem libraries settings) redisAvailable initial
        config →
      ∀ studentId started response,
      Prog.ret (.ok (.read studentId started response)) ∈ config.threads →
      ∀ mark, (studentId, mark) ∈ started →
        ∃ version, mark = .version version ∧
          version ≤ response.versionId := by
  intro noStaleRead
  obtain ⟨version, isVersion, notOlder⟩ := noStaleRead sampleLibraries
    .default loads_dumped sampleStore rfl (fun _ => rfl) repopulated
    repopulated_reachable 1 [(1, .version 2)] (.ofRow sampleStudent)
    (finished_mem 2 (by decide +kernel)) (.version 2) (by simp)
  cases isVersion
  exact absurd notOlder (by decide)

end SystemUni.Students.StaleReads
