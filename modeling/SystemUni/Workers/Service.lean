import SystemUni.Workers.Execution

/-!
# The report service

All threads that touch the queue: the API's exports and polls, any number of
workers with their heartbeat threads, and each function of the workers called
on its own.  `queue_obeys` is the one place where the specifications of the
functions become facts about every run.
-/

set_option autoImplicit false

namespace SystemUni.Workers.Service

open Interleaving Relational
open SystemUni.Runtime.Errors
open SystemUni.Runtime.Statements
open SystemUni.Runtime.Rules
open SystemUni.Models.Rows
open SystemUni.Models.Jobs
open SystemUni.Routers.Reports
open SystemUni.Workers.Tasks
open SystemUni.Workers.Runner
open SystemUni.Workers.Queue
open SystemUni.Workers.Execution

/-- What a finished thread answered, as far as the specifications speak of
it. -/
inductive Answer where
  | done
  | executed (claim : ClaimedJob) (result : ExecutionResult)
  | polled (user : User) (data : JobData)
  deriving DecidableEq

def settle {α : Type} (program : Py α) : Py Answer := do
  let _ ← program
  return .done

def execution (claim : ClaimedJob) (program : Py ExecutionResult) :
    Py Answer := do
  let result ← program
  return .executed claim result

def workerTurn (settings : Settings) : Py Answer := do
  let turn ← runOnce settings
  match turn with
  | none => return .done
  | some (claim, result) => return .executed claim result

def poll (jobId : String) (user : User) : Py Answer := do
  let data ← getJobStatus jobId user
  return .polled user data

/-- The programs the outside may start.  Only claims that some
`claim_next_job` committed are handed to `process_claimed_report`. -/
inductive QueueRequest (settings : Settings) (store : Store) :
    Py Answer → Prop where
  | exportTranscriptAsync (studentId : Id) (user : User) :
      QueueRequest settings store
        (settle (exportTranscriptAsync studentId user))
  | getJobStatus (jobId : String) (user : User) :
      QueueRequest settings store (poll jobId user)
  | runOnce : QueueRequest settings store (workerTurn settings)
  | reconcileOnce : QueueRequest settings store (settle reconcileOnce)
  | claimNextJob : QueueRequest settings store (settle (claimNextJob settings))
  | processClaimedReport (claim : ClaimedJob)
      (claimed : claim ∈ store.queue.claims) :
      QueueRequest settings store
        (execution claim (processClaimedReport settings claim))
  | renewLease (claim : ClaimedJob) (claimed : claim ∈ store.queue.claims) :
      QueueRequest settings store (settle (renewLease settings claim))
  | recordFailure (claim : ClaimedJob) (claimed : claim ∈ store.queue.claims)
      (error : Exc) (permanent : Bool) :
      QueueRequest settings store
        (settle (recordFailure settings claim error permanent))
  | persistOrAdoptReport (jobId : String) (result : Transcript) :
      QueueRequest settings store (settle (persistOrAdoptReport jobId result))
  | reconcileReportedJob (jobId : String) :
      QueueRequest settings store (settle (reconcileReportedJob jobId))
  | reconcileReportedJobs :
      QueueRequest settings store (settle reconcileReportedJobs)
  | other {α : Type} (program : Py α) (leaves : Leaves Store.queue program) :
      QueueRequest settings store (settle program)

def childCode (settings : Settings) : Child → Py Answer
  | .heartbeat claim execution =>
      settle (heartbeatLoop settings claim execution)

def queueSystem (settings : Settings) :
    System university (Except Exc Answer) where
  start := QueueRequest settings
  code := childCode settings

/-- What may be said of an answer once it has been given. -/
def answerOk (answer : Answer) (store : Store) : Prop :=
  match answer with
  | .done => True
  | .executed claim result => Adopted claim result store.queue
  | .polled user data =>
      Shown user data store.queue ∧ Consistent data store.queue

/-- A thread that raised promises nothing. -/
abbrev finishOk : Except Exc Answer → Store → Prop :=
  @outcome university Exc Answer answerOk fun _ _ => True

section Obeys

variable {settings : Settings} {me : Nat} {store : Store}

theorem runs_settle {α : Type} {program : Py α}
    (runs : Runs (queueDiscipline settings) me program
      (fun _ _ => True) (fun _ _ => True) store) :
    Runs (queueDiscipline settings) me (settle program) answerOk
      (fun _ _ => True) store :=
  runs_bind (runs_mono runs (fun _ _ _ => runs_pure _ trivial)
    fun _ _ _ => trivial)

theorem runs_execution {claim : ClaimedJob}
    (wellFormed : WellFormed store.queue) :
    Runs (queueDiscipline settings) me
      (execution claim (processClaimedReport settings claim)) answerOk
      (fun _ _ => True) store :=
  runs_bind (runs_mono (runs_processClaimedReport wellFormed)
    (fun _ _ adopted => runs_pure _ adopted) fun _ _ _ => trivial)

theorem runs_poll {jobId : String} {user : User}
    (wellFormed : WellFormed store.queue) :
    Runs (queueDiscipline settings) me (poll jobId user) answerOk
      (fun _ _ => True) store :=
  runs_bind (runs_mono (runs_getJobStatus wellFormed)
    (fun _ _ shown => runs_pure _ ⟨shown.1, shown.2.1⟩) fun _ _ _ => trivial)

theorem runs_workerTurn (wellFormed : WellFormed store.queue) :
    Runs (queueDiscipline settings) me (workerTurn settings) answerOk
      (fun _ _ => True) store := by
  refine runs_bind (runs_mono (runs_runOnce wellFormed) ?_
    fun _ _ _ => trivial)
  intro turn later adopted
  cases turn with
  | none => exact runs_pure _ trivial
  | some outcome => exact runs_pure _ (adopted outcome.1 outcome.2 rfl)

theorem runs_request {arrived : Store} {program : Py Answer}
    (request : QueueRequest settings arrived program)
    (wellFormed : WellFormed store.queue) :
    Runs (queueDiscipline settings) me program answerOk (fun _ _ => True)
      store := by
  cases request with
  | exportTranscriptAsync studentId user =>
      exact runs_settle (runs_exportTranscriptAsync wellFormed)
  | getJobStatus jobId user => exact runs_poll wellFormed
  | runOnce => exact runs_workerTurn wellFormed
  | reconcileOnce => exact runs_settle (runs_reconcileOnce wellFormed)
  | claimNextJob =>
      exact runs_settle (runs_claimNextJob wellFormed
        (fun _ _ _ => trivial) fun _ _ _ => trivial)
  | processClaimedReport claim claimed => exact runs_execution wellFormed
  | renewLease claim claimed =>
      exact runs_settle (runs_renewLease wellFormed
        (fun _ _ _ => trivial) fun _ _ _ => trivial)
  | recordFailure claim claimed error permanent =>
      exact runs_settle (runs_recordFailure wellFormed
        (fun _ _ => trivial) fun _ _ => trivial)
  | persistOrAdoptReport jobId result =>
      exact runs_settle (runs_persistOrAdoptReport wellFormed
        (fun _ _ _ => trivial) fun _ _ _ _ => trivial)
  | reconcileReportedJob jobId =>
      exact runs_settle (runs_reconcileReportedJob wellFormed
        (fun _ _ _ => trivial) fun _ _ _ _ => trivial)
  | reconcileReportedJobs =>
      exact runs_settle (runs_reconcileReportedJobs wellFormed
        (fun _ _ => trivial) fun _ _ => trivial)
  | other program leaves =>
      exact runs_settle (runs_leaves leaves wellFormed
        (fun _ _ _ => trivial) fun _ _ _ => trivial)

end Obeys

theorem queue_obeys (settings : Settings) :
    Obeys (queueSystem settings) (queueDiscipline settings) finishOk where
  starts _ _ _ _ request := fun _ wellFormed _ =>
    runs_request request wellFormed
  children _ child _ _ := by
    intro later wellFormed _
    cases child with
    | heartbeat claim execution =>
        exact runs_settle (runs_heartbeatLoop wellFormed)

/-- What an export of the sample student reports. -/
def sampleTranscript : Transcript :=
  ⟨1, "Mona", "mona@uni.edu", 1, 0, 0, []⟩

end SystemUni.Workers.Service
