import SystemUni.Accounts.Service
import SystemUni.Students.Requests

/-!
# The student service

All requests on students, each in its own session, and any program beside them
that leaves the students table and its cache alone.
-/

set_option autoImplicit false

namespace SystemUni.Students.Service

open Interleaving
open SystemUni.Runtime.Errors
open SystemUni.Runtime.External
open SystemUni.Runtime.Statements
open SystemUni.Runtime.Rules
open SystemUni.Models.Rows
open SystemUni.Models.Changes
open SystemUni.Workers.Tasks
open SystemUni.Workers.Frame
open SystemUni.Crud.User
open SystemUni.Crud.Student
open SystemUni.Accounts.Frame
open SystemUni.Accounts.Service
open SystemUni.Students.Discipline
open SystemUni.Students.Requests

/-- A read remembers, for the specifications, which writes had returned when
it started. -/
inductive StudentAnswer where
  | done
  | read (studentId : Id) (started : List (Id × WriteMark))
      (response : StudentResponse)
  deriving DecidableEq

def answerDone {α : Type} (request : Py α) : Py StudentAnswer := do
  let _ ← request
  return .done

def serveRead (libraries : Libraries) (studentId : Id) (user : User) :
    Py StudentAnswer := do
  let started ← internal fun _ _ store => (store.returned, store)
  let response ← getDb (readStudent libraries studentId user)
  return .read studentId started response

inductive StudentRequest (libraries : Libraries) : Py StudentAnswer → Prop where
  | readStudent (studentId : Id) (user : User) :
      StudentRequest libraries (serveRead libraries studentId user)
  | updateStudent (studentUpdate : StudentUpdate) (studentId : Id) :
      StudentRequest libraries
        (answerDone (serve (updateStudent studentUpdate studentId)))
  | linkStudentToUser (studentId userId : Id) :
      StudentRequest libraries
        (answerDone (serve (linkStudentToUser studentId userId)))
  | deleteStudent (studentId : Id) :
      StudentRequest libraries (answerDone (serve (deleteStudent studentId)))
  | deleteUser (userId : Id) :
      StudentRequest libraries (answerDone (serve (deleteUser userId)))
  | other {α : Type} (program : Py α) (leaves : Leaves studentView program) :
      StudentRequest libraries (answerDone (serve program))

def studentSystem (libraries : Libraries) (settings : Settings) :
    System university (Except Exc StudentAnswer) where
  start _ := StudentRequest libraries
  code child := answerDone (heartbeat settings child)

section Obeys

variable {libraries : Libraries} {settings : Settings} {guarded : Prop}
  {me : Nat} {store : Store}

/-- What is known of an answer. -/
def Sound (guarded : Prop) : StudentAnswer → Prop
  | .done => True
  | .read studentId started response =>
      Answers guarded started studentId response

theorem runs_answerDone {α : Type} {request : Py α}
    (keeps : Keeps libraries guarded me request store) :
    Runs (studentDiscipline libraries guarded) me (answerDone request)
      (fun answer _ => Sound guarded answer) (fun _ _ => True) store := by
  refine runs_bind (runs_mono keeps ?_ fun _ _ _ => trivial)
  exact fun _ _ _ => runs_pure _ trivial

theorem keeps_serve {α : Type} {request : Py α}
    (keeps : Keeps libraries guarded me request store) :
    Keeps libraries guarded me (serve request) store := by
  have discards : Runs (studentDiscipline libraries guarded) me
      (do
        let _ ← request
        return ())
      (fun _ later =>
        (studentDiscipline libraries guarded).inv later ∧ True)
      (Kept libraries guarded) store :=
    runs_bind (runs_mono keeps
      (fun _ _ kept => runs_pure () ⟨kept, trivial⟩) fun _ _ kept => kept)
  exact runs_mono
    (runs_session (fun _ => True) (fun _ kept => keeps_rollback kept) discards)
    (fun _ _ kept => kept.1) fun _ _ kept => kept

theorem runs_serveRead (loads : guarded → LoadsDumped libraries) {studentId : Id}
    {user : User} (invariant : (studentDiscipline libraries guarded).inv store) :
    Runs (studentDiscipline libraries guarded) me
      (serveRead libraries studentId user)
      (fun answer _ => Sound guarded answer) (fun _ _ => True) store := by
  refine runs_bind (runs_observe (student_stutters libraries guarded) invariant
    ?_)
  intro choice later follows
  refine runs_bind (runs_mono
    (runs_session (Answers guarded store.returned studentId)
      (fun _ kept => keeps_rollback kept)
      (runs_readStudent loads follows.inv follows.rely.returned))
    ?_ fun _ _ _ => trivial)
  exact fun response last answers => runs_pure _ answers.2

theorem runs_request (loads : guarded → LoadsDumped libraries)
    {program : Py StudentAnswer} (request : StudentRequest libraries program)
    (invariant : (studentDiscipline libraries guarded).inv store) :
    Runs (studentDiscipline libraries guarded) me program
      (fun answer _ => Sound guarded answer) (fun _ _ => True) store := by
  cases request with
  | readStudent studentId user => exact runs_serveRead loads invariant
  | updateStudent studentUpdate studentId =>
      exact runs_answerDone (keeps_serve (runs_updateStudent invariant))
  | linkStudentToUser studentId userId =>
      exact runs_answerDone (keeps_serve (runs_linkStudentToUser invariant))
  | deleteStudent studentId =>
      exact runs_answerDone (keeps_serve (runs_deleteStudent invariant))
  | deleteUser userId =>
      exact runs_answerDone (keeps_serve (runs_deleteUser invariant))
  | other program leaves =>
      exact runs_answerDone (keeps_serve (keeps_of_leaves leaves invariant))

theorem studentView_besideQueue : Beside studentView :=
  ⟨fun _ _ _ => rfl, fun _ _ _ => rfl⟩

theorem runs_heartbeats {child : Child}
    (invariant : (studentDiscipline libraries guarded).inv store) :
    Runs (studentDiscipline libraries guarded) me
      (answerDone (heartbeat settings child))
      (fun answer _ => Sound guarded answer) (fun _ _ => True) store := by
  cases child with
  | heartbeat claim execution =>
      have leaves : Leaves studentView
          (heartbeatLoop settings claim execution) :=
        leaves_heartbeatLoop studentView_besideQueue.toBesideJobs settings claim execution
      exact runs_answerDone (keeps_of_leaves leaves invariant)

end Obeys

abbrev soundAnswer (guarded : Prop) :
    Except Exc StudentAnswer → Store → Prop :=
  @outcome university Exc StudentAnswer (fun answer _ => Sound guarded answer)
    fun _ _ => True

theorem student_obeys {libraries : Libraries} (settings : Settings)
    {guarded : Prop} (loads : guarded → LoadsDumped libraries) :
    Obeys (studentSystem libraries settings)
      (studentDiscipline libraries guarded) (soundAnswer guarded) where
  starts _ _ _ _ request := fun _ invariant _ =>
    runs_request loads request invariant
  children _ _ _ _ := fun _ invariant _ => runs_heartbeats invariant

end SystemUni.Students.Service
