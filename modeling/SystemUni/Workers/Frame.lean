import SystemUni.Runtime.Rules
import SystemUni.Workers.Queue

/-!
# What the workers leave alone

A worker writes the jobs, the reports and the events of its heartbeat, and
nothing else.  Jobs are only added by exports.
-/

set_option autoImplicit false

namespace SystemUni.Workers.Frame

open Interleaving
open SystemUni.Runtime.Errors
open SystemUni.Runtime.Statements
open SystemUni.Runtime.Rules
open SystemUni.Models.Rows
open SystemUni.Models.Jobs
open SystemUni.Services.Reports
open SystemUni.Workers.Tasks
open SystemUni.Workers.Runner
open SystemUni.Workers.Queue

/-- A view of the store that neither the events nor, the record of exports
apart, the queue are part of. -/
structure Beside {ν : Type} (view : Store → ν) : Prop where
  queue : ∀ (store : Store) (queue : Queue),
    queue.exports = store.queue.exports →
      view { store with queue := queue } = view store
  events : ∀ (store : Store) (execution : Nat) (events : Events),
    view (store.setEvents execution events) = view store

/-- The same, the reports apart too: most of what a worker does stores none. -/
structure BesideJobs {ν : Type} (view : Store → ν) : Prop where
  queue : ∀ (store : Store) (queue : Queue),
    queue.exports = store.queue.exports →
      queue.reports = store.queue.reports →
        view { store with queue := queue } = view store
  events : ∀ (store : Store) (execution : Nat) (events : Events),
    view (store.setEvents execution events) = view store

theorem Beside.toBesideJobs {ν : Type} {view : Store → ν}
    (beside : Beside view) : BesideJobs view :=
  ⟨fun store queue exports _ => beside.queue store queue exports,
    beside.events⟩

theorem leaves_generate {ν : Type} {view : Store → ν} (studentId : Id) :
    Leaves view (generateStudentTranscript studentId) := by
  refine leaves_bind leaves_query ?_
  intro student
  cases student with
  | none => exact leaves_pure
  | some student =>
      refine leaves_bind leaves_query fun enrollments => ?_
      refine leaves_bind leaves_observe fun fault => ?_
      cases fault with
      | none => exact leaves_pure
      | some exc => exact leaves_throw

theorem leaves_retryAfter {ν : Type} {view : Store → ν} (settings : Settings)
    (attemptCount : Nat) (failed : Bool) (now : Time) :
    Leaves view (retryAfter settings attemptCount failed now) := by
  unfold retryAfter
  split
  · exact leaves_pure
  · refine leaves_bind leaves_observe fun jitter => ?_
    cases retryTime settings attemptCount jitter now with
    | error exc => exact leaves_throw
    | ok retryAt => exact leaves_pure

theorem leaves_completedResult {ν : Type} {view : Store → ν}
    (jobId : String) :
    Leaves view (completedResult jobId) := by
  refine leaves_bind ?_ fun result => leaves_pure
  refine leaves_bind leaves_query fun report => ?_
  cases report with
  | none => exact leaves_throw
  | some report => exact leaves_pure

/-! ## What stores no report -/

section Jobs

variable {ν α : Type} {view : Store → ν} (beside : BesideJobs view)

include beside

theorem leaves_queue {label : Label} {answer : Choice → Store → α}
    {next : Choice → Store → Queue}
    (same : ∀ choice store,
      (next choice store).exports = store.queue.exports ∧
        (next choice store).reports = store.queue.reports) :
    Leaves view (transaction label fun choice store =>
      .ok (answer choice store, { store with queue := next choice store })) := by
  refine leaves_transaction ?_
  intro choice store value after body
  cases body
  exact beside.queue store _ (same choice store).1 (same choice store).2

theorem leaves_reconcileReportedJob (jobId : String) :
    Leaves view (reconcileReportedJob jobId) := by
  refine leaves_bind leaves_query fun report => ?_
  cases report with
  | none => exact leaves_pure
  | some report =>
      refine leaves_bind leaves_observe fun _ => ?_
      exact leaves_bind (leaves_queue beside fun _ _ => ⟨rfl, rfl⟩)
        fun _ => leaves_pure

theorem leaves_reconcileReportedJobs : Leaves view reconcileReportedJobs :=
  leaves_bind leaves_observe fun _ =>
    leaves_queue beside fun _ _ => ⟨rfl, rfl⟩

theorem leaves_claimNextJob (settings : Settings) :
    Leaves view (claimNextJob settings) := by
  refine leaves_bind leaves_observe fun now => ?_
  refine leaves_bind leaves_observe fun workerToken => ?_
  refine leaves_transaction ?_
  intro choice store value after body
  cases found : candidate now choice.lockedJobs store.queue.jobs with
  | none =>
      rw [found] at body
      cases body
      rfl
  | some job =>
      rw [found] at body
      cases body
      exact beside.queue store _ rfl rfl

theorem leaves_renewLease (settings : Settings) (claim : ClaimedJob) :
    Leaves view (renewLease settings claim) :=
  leaves_bind leaves_observe fun _ =>
    leaves_bind leaves_observe fun _ =>
      leaves_queue beside fun _ _ => ⟨rfl, rfl⟩

theorem leaves_heartbeatTurn (settings : Settings) (claim : ClaimedJob)
    (execution : Nat) : Leaves view (heartbeatTurn settings claim execution) := by
  refine leaves_tryCatch (leaves_bind
    (leaves_reconcileReportedJob beside claim.jobId) fun report => ?_)
    fun exc => ?_
  · cases report with
    | none => exact leaves_renewLease beside settings claim
    | some report =>
        exact leaves_bind (leaves_internal fun _ store _ =>
          beside.events _ _ _) fun _ => leaves_pure
  · split
    · exact leaves_pure
    · exact leaves_throw

theorem leaves_heartbeatLoop (settings : Settings) (claim : ClaimedJob)
    (execution : Nat) : Leaves view (heartbeatLoop settings claim execution) := by
  refine leaves_bind leaves_observe fun stopped => ?_
  split
  · exact leaves_pure
  refine leaves_bind (leaves_heartbeatTurn beside settings claim execution)
    fun again => ?_
  split
  · exact leaves_startThread
  · exact leaves_pure

theorem leaves_recordFailure (settings : Settings) (claim : ClaimedJob)
    (error : Exc) (permanent : Bool) :
    Leaves view (recordFailure settings claim error permanent) := by
  refine leaves_bind leaves_query fun job => ?_
  cases job with
  | none => exact leaves_pure
  | some job =>
      simp only
      split
      · exact leaves_pure
      split
      · exact leaves_pure
      refine leaves_bind leaves_observe fun time => ?_
      refine leaves_bind (leaves_retryAfter settings _ _ time)
        fun retryAt => ?_
      refine leaves_bind (leaves_queue beside fun _ _ => ⟨rfl, rfl⟩)
        fun applied => ?_
      split
      · exact leaves_pure
      · exact leaves_pure

theorem leaves_adoptReport (jobId : String) (exc : Exc) :
    Leaves view (if exc.isIntegrityError then do
        let winner ← reconcileReportedJob jobId
        match winner with
        | none => throw exc
        | some winner => return winner
      else throw exc) := by
  split
  · refine leaves_bind (leaves_reconcileReportedJob beside jobId)
      fun winner => ?_
    cases winner with
    | none => exact leaves_throw
    | some winner => exact leaves_pure
  · exact leaves_throw

theorem leaves_adoptOr {jobId : String} {adopting rest : Py α}
    (adopts : Leaves view adopting) (leaves : Leaves view rest) :
    Leaves view (do
      let existing ← reconcileReportedJob jobId
      if existing.isSome then return ← adopting
      rest) := by
  refine leaves_bind (leaves_reconcileReportedJob beside jobId)
    fun existing => ?_
  split
  · exact adopts
  · exact leaves

theorem leaves_handleError (settings : Settings) (claim : ClaimedJob)
    (exc : Exc) : Leaves view (handleError settings claim exc) := by
  have completes : Leaves view (completedResult claim.jobId) :=
    leaves_completedResult claim.jobId
  have records : ∀ error permanent, Leaves view (do
      let status ← recordFailure settings claim error permanent
      return (⟨status, claim.jobId, none⟩ : ExecutionResult)) :=
    fun error permanent => leaves_bind
      (leaves_recordFailure beside settings claim error permanent)
      fun _ => leaves_pure
  unfold handleError
  split
  · exact records _ true
  · exact leaves_adoptOr beside completes leaves_pure
  · exact leaves_adoptOr beside completes (records exc false)

theorem leaves_claimWithRetry (settings : Settings) (remaining : Nat) :
    Leaves view (claimWithRetry settings remaining) := by
  induction remaining with
  | zero => exact leaves_pure
  | succ remaining inductionHypothesis =>
      refine leaves_tryCatch (leaves_claimNextJob beside settings)
        fun exc => ?_
      split
      · exact inductionHypothesis
      · exact leaves_throw

theorem leaves_reconcileOnce : Leaves view reconcileOnce := by
  refine leaves_tryCatch
    (leaves_bind (leaves_reconcileReportedJobs beside) fun _ => leaves_pure)
    fun exc => ?_
  split
  · exact leaves_pure
  · exact leaves_throw

end Jobs

/-! ## Executions -/

section Leaves

variable {ν α : Type} {view : Store → ν} (beside : Beside view)

include beside

theorem leaves_persistOrAdoptReport (jobId : String) (result : Transcript) :
    Leaves view (persistOrAdoptReport jobId result) := by
  refine leaves_tryCatch ?_ (leaves_adoptReport beside.toBesideJobs jobId)
  refine leaves_bind leaves_observe fun time => ?_
  refine leaves_bind (leaves_transaction ?_) fun _ => leaves_pure
  intro choice store done next body
  obtain ⟨queue, inserted, becomes⟩ := mapped_ok body
  cases becomes
  obtain ⟨_, _, rfl⟩ := persistReport_ok inserted
  exact beside.queue store _ rfl

theorem leaves_jobHeartbeat (claim : ClaimedJob) {block : Nat → Py α}
    (leaves : ∀ execution, Leaves view (block execution)) :
    Leaves view (jobHeartbeat claim block) := by
  refine leaves_bind (leaves_internal fun me _ store =>
    beside.events store me {}) fun execution => ?_
  exact leaves_bind leaves_startThread fun _ =>
    leaves_withFinally (leaves execution)
      (leaves_internal fun _ _ store => beside.events store execution _)

theorem leaves_generateUnderLease (claim : ClaimedJob) (reportType : String)
    (targetId : Id) (execution : Nat) :
    Leaves view (generateUnderLease claim reportType targetId execution) := by
  have reconciles : Leaves view (reconcileReportedJob claim.jobId) :=
    leaves_reconcileReportedJob beside.toBesideJobs claim.jobId
  have completes : Leaves view (completedResult claim.jobId) :=
    leaves_completedResult claim.jobId
  refine leaves_bind reconciles fun existing => ?_
  split
  · exact leaves_bind completes fun _ => leaves_pure
  split
  · exact leaves_throw
  refine leaves_bind (leaves_generate targetId) fun transcript => ?_
  refine leaves_bind leaves_observe fun reportFound => ?_
  split
  · refine leaves_bind reconciles fun again => ?_
    split
    · exact leaves_bind completes fun _ => leaves_pure
    · exact leaves_throw
  · exact leaves_pure

theorem leaves_executeClaim (claim : ClaimedJob) :
    Leaves view (executeClaim claim) := by
  have reconciles : Leaves view (reconcileReportedJob claim.jobId) :=
    leaves_reconcileReportedJob beside.toBesideJobs claim.jobId
  have completes : ∀ jobId, Leaves view (completedResult jobId) :=
    leaves_completedResult
  refine leaves_bind leaves_query fun job => ?_
  cases job with
  | none => exact leaves_pure
  | some job =>
      refine leaves_bind reconciles fun existing => ?_
      split
      · exact completes _
      split
      · exact leaves_pure
      split
      · exact leaves_pure
      refine leaves_bind (leaves_jobHeartbeat beside claim
        (leaves_generateUnderLease beside claim _ _)) fun generated => ?_
      cases generated with
      | inl answer => exact leaves_pure
      | inr transcript =>
          refine leaves_bind reconciles fun again => ?_
          split
          · exact completes _
          cases transcript with
          | none => exact leaves_throw
          | some transcript =>
              exact leaves_bind
                (leaves_persistOrAdoptReport beside claim.jobId transcript)
                fun report => completes report.jobId

theorem leaves_runOnce (settings : Settings) :
    Leaves view (runOnce settings) := by
  refine leaves_bind (leaves_claimWithRetry beside.toBesideJobs settings _)
    fun claimed => ?_
  cases claimed with
  | none => exact leaves_pure
  | some claim =>
      exact leaves_bind
        (leaves_tryCatch (leaves_executeClaim beside claim)
          (leaves_handleError beside.toBesideJobs settings claim))
        fun _ => leaves_pure

end Leaves

end SystemUni.Workers.Frame
