import SystemUni.Services.Reports

/-!
# Report jobs

`app/workers/tasks.py`.  Every function is the sequence of statements its
source executes; a guarded `UPDATE` is one statement together with its
commit.
-/

set_option autoImplicit false

namespace SystemUni.Workers.Tasks

open Relational
open SystemUni.Runtime.Errors
open SystemUni.Runtime.Statements
open SystemUni.Models.Rows
open SystemUni.Models.Jobs
open SystemUni.Services.Reports

/-! ## Updates of job rows -/

def completeValues (now : Time) (job : Job) : Job :=
  { job with
    status := .completed
    workerToken := none
    leaseUntil := none
    retryAt := none
    lastError := none
    updatedAt := now }

@[simp] theorem completeValues_jobId (now : Time) (job : Job) :
    (completeValues now job).jobId = job.jobId := rfl

def isCompleted (job : Job) : Bool := decide (job.status = .completed)

def completeJob (jobId : String) (now : Time) (queue : Queue) : Queue :=
  { queue with
    jobs := queue.jobs.updateWhere
      (fun job => decide (job.jobId = jobId) && !isCompleted job)
      (completeValues now) (completeValues_jobId now) }

def completeReportedJobs (now : Time) (queue : Queue) : Queue :=
  { queue with
    jobs := queue.jobs.updateWhere
      (fun job => (queue.reports.find? job.jobId).isSome && !isCompleted job)
      (completeValues now) (completeValues_jobId now) }

/-- The rows `reconcile_reported_jobs` changes. -/
def reportedJobs (queue : Queue) : List Job :=
  queue.jobs.rows.filter fun job =>
    (queue.reports.find? job.jobId).isSome && !isCompleted job

/-! ## `reconcile_reported_job`, `reconcile_reported_jobs` -/

def reconcileReportedJob (jobId : String) : Py (Option Report) := do
  let report ← query fun store => store.queue.reports.find? jobId
  match report with
  | none => return none
  | some report =>
      let now ← now
      transaction (.queue (.reconcileJob jobId)) fun _ store =>
        .ok ((), { store with queue := completeJob jobId now store.queue })
      return some report

def reconcileReportedJobs : Py Nat := do
  let now ← now
  transaction (.queue .reconcileJobs) fun _ store =>
    .ok ((reportedJobs store.queue).length,
      { store with queue := completeReportedJobs now store.queue })

/-! ## `claim_next_job` -/

def ready (now : Time) (job : Job) : Bool :=
  decide (job.status = .queued) &&
    match job.retryAt with
    | none => true
    | some retryAt => decide (retryAt ≤ now)

def abandoned (now : Time) (job : Job) : Bool :=
  decide (job.status = .processing) &&
    match job.leaseUntil with
    | none => true
    | some leaseUntil => decide (leaseUntil < now)

/-- The `ORDER BY` of the claim: queued jobs first, then by `retry_at` with
nulls first, then by `created_at`, then by `job_id`. -/
def claimOrder (job : Job) : ℕ ×ₗ WithBot ℚ ×ₗ ℚ ×ₗ String :=
  toLex (if job.status = .queued then 0 else 1,
    toLex ((job.retryAt : WithBot ℚ), toLex (job.createdAt, job.jobId)))

/-- `SELECT … FOR UPDATE SKIP LOCKED LIMIT 1`. -/
def candidate (now : Time) (locked : List String) (jobs : Table Job.jobId) :
    Option Job :=
  ((jobs.rows.filter fun job =>
    (ready now job || abandoned now job) &&
      !locked.contains job.jobId).insertionSort
        fun first second => claimOrder first ≤ claimOrder second).head?

def claimValues (settings : Settings) (now : Time) (workerToken : String)
    (job : Job) : Job :=
  { job with
    status := .processing
    workerToken := some workerToken
    jobVersion := job.jobVersion + 1
    attemptCount := job.attemptCount + 1
    leaseUntil := some (now + settings.jobLeaseSeconds)
    retryAt := none
    lastError := none
    updatedAt := now }

@[simp] theorem claimValues_jobId (settings : Settings) (now : Time)
    (workerToken : String) (job : Job) :
    (claimValues settings now workerToken job).jobId = job.jobId := rfl

def claimJob (settings : Settings) (now : Time) (claim : ClaimedJob)
    (queue : Queue) : Queue :=
  { queue with
    jobs := queue.jobs.updateWhere
      (fun job => decide (job.jobId = claim.jobId))
      (claimValues settings now claim.workerToken)
      (claimValues_jobId settings now claim.workerToken)
    claims := claim :: queue.claims }

def claimNextJob (settings : Settings) : Py (Option ClaimedJob) := do
  let now ← now
  let workerToken ← uuid4
  transaction (.queue (.claimNextJob now)) fun choice store =>
    match candidate now choice.lockedJobs store.queue.jobs with
    | none => .ok (none, store)
    | some job =>
        let claim : ClaimedJob :=
          ⟨job.jobId, workerToken, job.jobVersion + 1⟩
        .ok (some claim,
          { store with queue := claimJob settings now claim store.queue })

/-! ## Leases -/

def ownsJob (job : Job) (claim : ClaimedJob) : Bool :=
  decide (job.workerToken = some claim.workerToken) &&
    decide (job.jobVersion = claim.jobVersion)

/-- The `WHERE` of `_renew_lease` and `_record_failure`. -/
def heldUnder (claim : ClaimedJob) (job : Job) : Bool :=
  decide (job.jobId = claim.jobId) && decide (job.status = .processing) &&
    decide (job.workerToken = some claim.workerToken) &&
    decide (job.jobVersion = claim.jobVersion)

def leaseValues (leaseUntil updatedAt : Time) (job : Job) : Job :=
  { job with leaseUntil := some leaseUntil, updatedAt := updatedAt }

@[simp] theorem leaseValues_jobId (leaseUntil updatedAt : Time) (job : Job) :
    (leaseValues leaseUntil updatedAt job).jobId = job.jobId := rfl

def extendLease (claim : ClaimedJob) (leaseUntil updatedAt : Time)
    (queue : Queue) : Queue :=
  { queue with
    jobs := queue.jobs.updateWhere (heldUnder claim)
      (leaseValues leaseUntil updatedAt)
      (leaseValues_jobId leaseUntil updatedAt) }

def renewLease (settings : Settings) (claim : ClaimedJob) : Py Bool := do
  let leaseUntil ← now
  let updatedAt ← now
  transaction (.queue (.renewLease claim)) fun _ store =>
    .ok (store.queue.jobs.rows.any (heldUnder claim),
      { store with
        queue := extendLease claim (leaseUntil + settings.jobLeaseSeconds)
          updatedAt store.queue })

/-- The `try` block of `heartbeat_loop`, and whether the loop goes on. -/
def heartbeatTurn (settings : Settings) (claim : ClaimedJob)
    (execution : Nat) : Py Bool :=
  tryCatch
    (do
      let report ← reconcileReportedJob claim.jobId
      match report with
      | some _ =>
          internal fun _ _ store =>
            ((), store.setEvents execution
              { store.events execution with reportFound := true })
          return false
      | none => renewLease settings claim)
    fun exc => if exc.isSqlAlchemyError then return true else throw exc

/-- One turn of `heartbeat_loop`.  Waiting on `stop_event` takes any time; the
loop goes on by starting its next turn. -/
def heartbeatLoop (settings : Settings) (claim : ClaimedJob)
    (execution : Nat) : Py Unit := do
  let stopped ← internal fun _ _ store =>
    ((store.events execution).stop, store)
  if stopped then return ()
  let again ← heartbeatTurn settings claim execution
  if again then startThread (.heartbeat claim execution) else return ()

/-- `job_heartbeat`: the block runs beside the heartbeat thread, which is told
to stop when the block ends.  `thread.join` waits for one second at most, so
the thread may outlive the block. -/
def jobHeartbeat {α : Type} (claim : ClaimedJob) (block : Nat → Py α) :
    Py α := do
  let execution ← internal fun me _ store => (me, store.setEvents me {})
  startThread (.heartbeat claim execution)
  withFinally (block execution) <| internal fun _ _ store =>
    ((), store.setEvents execution
      { store.events execution with stop := true })

/-! ## `_persist_or_adopt_report` -/

/-- Insert the report and complete its job in one transaction. -/
def persistReport (report : Report) (now : Time) (queue : Queue) :
    Except Exc Queue :=
  if fresh : queue.reports.find? report.jobId = none then
    if (queue.jobs.find? report.jobId).isNone then
      .error (.sql .integrityError "ForeignKeyViolation")
    else
      .ok (completeJob report.jobId now
        { queue with reports := queue.reports.insert report fresh })
  else .error (.sql .integrityError "UniqueViolation")

def persistOrAdoptReport (jobId : String) (result : Transcript) :
    Py Report :=
  tryCatch
    (do
      let now ← now
      transaction (.queue (.persistReport jobId)) fun _ store =>
        (persistReport ⟨jobId, result⟩ now store.queue).map fun queue =>
          ((), { store with queue := queue })
      return ⟨jobId, result⟩)
    fun exc =>
      if exc.isIntegrityError then do
        let winner ← reconcileReportedJob jobId
        match winner with
        | none => throw exc
        | some winner => return winner
      else throw exc

/-! ## `_record_failure` -/

/-- A status an execution can report: a text of its own or the job's. -/
inductive ExecutionStatus where
  | jobNotFound
  | alreadyProcessing
  | job (status : JobStatus)
  deriving DecidableEq

/-- `f"{type(error).__name__}: {error}"[:1000]`. -/
def errorMessage (error : Exc) : String :=
  String.ofList ((error.typeName ++ ": " ++ error.text).toList.take 1000)

/-- The least number `float` rounds to infinity. -/
def floatOverflow : ℚ := 2 ^ 1024 - 2 ^ 970

/-- The least number of seconds above `timedelta.max`. -/
def timedeltaOverflow : ℚ := 86400 * 10 ^ 9

/-- The first second after `datetime.max`. -/
def datetimeOverflow : Time := 253402300800

/-- `retry_at`, when every number on the way can be represented.  Seconds are
exact here; `jitter` covers what rounding adds. -/
def retryTime (settings : Settings) (attemptCount : Nat) (jitter : Jitter)
    (now : Time) : Except Exc Time :=
  let delay : ℚ := settings.jobRetryBaseSeconds * 2 ^ ((attemptCount : ℤ) - 1)
  let jittered := delay + jitter.fraction * (delay / 2)
  if floatOverflow ≤ delay ∨ floatOverflow ≤ jittered then
    .error .overflowError
  else if timedeltaOverflow ≤ jittered then .error .overflowError
  else if datetimeOverflow ≤ now + jittered then .error .overflowError
  else .ok (now + jittered)

def failureValues (failed : Bool) (retryAt : Option Time) (message : String)
    (now : Time) (job : Job) : Job :=
  { job with
    status := if failed then .failed else .queued
    workerToken := none
    leaseUntil := none
    retryAt := retryAt
    lastError := some message
    updatedAt := now }

@[simp] theorem failureValues_jobId (failed : Bool) (retryAt : Option Time)
    (message : String) (now : Time) (job : Job) :
    (failureValues failed retryAt message now job).jobId = job.jobId := rfl

def failJob (claim : ClaimedJob) (failed : Bool) (retryAt : Option Time)
    (message : String) (now : Time) (queue : Queue) : Queue :=
  { queue with
    jobs := queue.jobs.updateWhere (heldUnder claim)
      (failureValues failed retryAt message now)
      (failureValues_jobId failed retryAt message now) }

/-- `values["retry_at"]`. -/
def retryAfter (settings : Settings) (attemptCount : Nat) (failed : Bool)
    (now : Time) : Py (Option Time) :=
  if failed then return none
  else do
    let jitter ← uniform
    match retryTime settings attemptCount jitter now with
    | .error exc => throw exc
    | .ok retryAt => return some retryAt

/-- The guarded update, and whether it applied. -/
def applyFailure (claim : ClaimedJob) (error : Exc) (permanent failed : Bool)
    (retryAt : Option Time) (now : Time) : Py Bool :=
  transaction (.queue (.recordFailure claim error permanent)) fun _ store =>
    .ok (store.queue.jobs.rows.any (heldUnder claim),
      { store with
        queue := failJob claim failed retryAt (errorMessage error) now
          store.queue })

def recordFailure (settings : Settings) (claim : ClaimedJob) (error : Exc)
    (permanent : Bool) : Py ExecutionStatus := do
  let job ← query fun store => store.queue.jobs.find? claim.jobId
  match job with
  | none => return .jobNotFound
  | some job =>
      if job.status ≠ .processing then return .job job.status
      if !ownsJob job claim then return .alreadyProcessing
      let now ← now
      let failed :=
        permanent || decide (settings.jobMaxAttempts ≤ job.attemptCount)
      let retryAt ← retryAfter settings job.attemptCount failed now
      let applied ← applyFailure claim error permanent failed retryAt now
      if !applied then return .alreadyProcessing
      return .job (if failed then .failed else .queued)

/-! ## `process_claimed_report` -/

structure ExecutionResult where
  status : ExecutionStatus
  jobId : String
  result : Option Transcript := none
  deriving DecidableEq

/-- `existing.result` once the commit has expired the loaded row. -/
def reportResult (jobId : String) : Py Transcript := do
  let report ← query fun store => store.queue.reports.find? jobId
  match report with
  | none => throw (.other "ObjectDeletedError" jobId)
  | some report => return report.result

def completedResult (jobId : String) : Py ExecutionResult := do
  let result ← reportResult jobId
  return ⟨.job .completed, jobId, some result⟩

section Generator

variable (generate : Id → Py (Option Transcript))

/-- The body of the `with job_heartbeat(claim)` statement, for a given
`generate_student_transcript`: either the answer it returns or the transcript it
leaves behind. -/
def generateUnderLeaseWith (claim : ClaimedJob) (reportType : String)
    (targetId : Id) (execution : Nat) :
    Py (ExecutionResult ⊕ Option Transcript) := do
  let existing ← reconcileReportedJob claim.jobId
  if existing.isSome then
    return .inl (← completedResult claim.jobId)
  if reportType ≠ "transcript" then
    throw (.permanentJobError ("Unsupported report type: " ++ reportType))
  let transcript ← generate targetId
  let reportFound ← internal fun _ _ store =>
    ((store.events execution).reportFound, store)
  if reportFound then
    let existing ← reconcileReportedJob claim.jobId
    if existing.isSome then
      return .inl (← completedResult claim.jobId)
    throw (.leaseLostError claim.jobId)
  return .inr transcript

/-- The `try` block of `process_claimed_report`. -/
def executeClaimWith (claim : ClaimedJob) : Py ExecutionResult := do
  let job ← query fun store => store.queue.jobs.find? claim.jobId
  match job with
  | none => return ⟨.jobNotFound, claim.jobId, none⟩
  | some job =>
      let existing ← reconcileReportedJob claim.jobId
      if existing.isSome then return ← completedResult claim.jobId
      if job.status ≠ .processing then
        return ⟨.job job.status, claim.jobId, none⟩
      if !ownsJob job claim then
        return ⟨.alreadyProcessing, claim.jobId, none⟩
      let generated ← jobHeartbeat claim
        (generateUnderLeaseWith generate claim job.reportType job.targetId)
      match generated with
      | .inl answer => return answer
      | .inr transcript =>
          let existing ← reconcileReportedJob claim.jobId
          if existing.isSome then return ← completedResult claim.jobId
          match transcript with
          | none =>
              throw (.permanentJobError
                ("Student " ++ job.targetId.repr ++ " no longer exists"))
          | some transcript =>
              let report ← persistOrAdoptReport claim.jobId transcript
              completedResult report.jobId

end Generator

def generateUnderLease (claim : ClaimedJob) (reportType : String)
    (targetId : Id) (execution : Nat) :
    Py (ExecutionResult ⊕ Option Transcript) :=
  generateUnderLeaseWith generateStudentTranscript claim reportType targetId
    execution

def executeClaim (claim : ClaimedJob) : Py ExecutionResult :=
  executeClaimWith generateStudentTranscript claim

/-- The `except` clauses of `process_claimed_report`. -/
def handleError (settings : Settings) (claim : ClaimedJob) :
    Exc → Py ExecutionResult
  | .permanentJobError message => do
      let status ←
        recordFailure settings claim (.permanentJobError message) true
      return ⟨status, claim.jobId, none⟩
  | .leaseLostError _ => do
      let existing ← reconcileReportedJob claim.jobId
      if existing.isSome then return ← completedResult claim.jobId
      return ⟨.alreadyProcessing, claim.jobId, none⟩
  | exc => do
      let existing ← reconcileReportedJob claim.jobId
      if existing.isSome then return ← completedResult claim.jobId
      let status ← recordFailure settings claim exc false
      return ⟨status, claim.jobId, none⟩

def processClaimedReportWith (generate : Id → Py (Option Transcript))
    (settings : Settings) (claim : ClaimedJob) : Py ExecutionResult :=
  tryCatch (executeClaimWith generate claim) (handleError settings claim)

def processClaimedReport (settings : Settings) (claim : ClaimedJob) :
    Py ExecutionResult :=
  processClaimedReportWith generateStudentTranscript settings claim

end SystemUni.Workers.Tasks
