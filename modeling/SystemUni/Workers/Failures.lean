import SystemUni.Workers.Guarantees

/-!
# What becomes of a failed job

No claim takes it and no failure is recorded for it.  An execution that claimed
it earlier may still persist its report, and the report completes the job.
-/

set_option autoImplicit false

namespace SystemUni.Workers.Failures

open Interleaving Relational
open SystemUni.Runtime.Errors
open SystemUni.Runtime.Statements
open SystemUni.Models.Rows
open SystemUni.Models.Jobs
open SystemUni.Models.Schema
open SystemUni.Routers.Reports
open SystemUni.Workers.Tasks
open SystemUni.Workers.Queue
open SystemUni.Workers.Execution
open SystemUni.Workers.Service
open SystemUni.Workers.Guarantees

/-- The row of a job that has failed: as it was then, or completed from its
report. -/
def Ended (failed : Job) (queue : Queue) (row : Job) : Prop :=
  row = failed ∧ queue.reports.find? failed.jobId = none ∨
    ∃ now report, row = completeValues now failed ∧
      queue.reports.find? failed.jobId = some report

/-- The job was failed and has been claimed that often. -/
structure HasFailed (failed : Job) (claims : List ClaimedJob)
    (queue : Queue) : Prop where
  status : failed.status = .failed
  row : ∃ row, queue.jobs.find? failed.jobId = some row ∧
    Ended failed queue row
  claims : claimsOf queue failed.jobId = claims

theorem Ended.status {failed row : Job} {queue : Queue}
    (ended : Ended failed queue row) (was : failed.status = .failed) :
    row.status = .failed ∨ row.status = .completed := by
  rcases ended with ⟨rfl, _⟩ | ⟨now, report, rfl, _⟩
  · exact .inl was
  · exact .inr rfl

theorem Ended.jobId {failed row : Job} {queue : Queue}
    (ended : Ended failed queue row) : row.jobId = failed.jobId := by
  rcases ended with ⟨rfl, _⟩ | ⟨now, report, rfl, _⟩
  · rfl
  · rfl

section Steps

variable {failed : Job} {claims : List ClaimedJob} {queue : Queue}

theorem HasFailed.skip (hasFailed : HasFailed failed claims queue)
    {condition : Job → Bool} {change : Job → Job}
    (same : ∀ job, (change job).jobId = job.jobId)
    (skipped : ∀ row, queue.jobs.find? failed.jobId = some row →
      Ended failed queue row → condition row = false) :
    HasFailed failed claims { queue with
      jobs := queue.jobs.updateWhere condition change same } := by
  obtain ⟨row, found, ended⟩ := hasFailed.row
  have kept := Table.find?_updateWhere_skip same found (skipped row found ended)
  exact ⟨hasFailed.status, ⟨row, kept, ended⟩, hasFailed.claims⟩

/-- Completion applies only once there is a report, and then once. -/
theorem skipped_complete {row : Job} (ended : Ended failed queue row)
    (unreported : row = failed → queue.reports.find? failed.jobId = none →
      False) : isCompleted row = true := by
  rcases ended with ⟨same, none⟩ | ⟨now, report, rfl, _⟩
  · exact (unreported same none).elim
  · rfl

theorem HasFailed.fenced (hasFailed : HasFailed failed claims queue)
    (claim : ClaimedJob) {change : Job → Job}
    (same : ∀ job, (change job).jobId = job.jobId) :
    HasFailed failed claims { queue with
      jobs := queue.jobs.updateWhere (heldUnder claim) change same } := by
  refine hasFailed.skip same fun row _ ended => ?_
  by_contra holds
  have processing := (heldUnder_iff.mp (by simpa using holds)).2.1
  rcases ended.status hasFailed.status with isFailed | isCompleted
  · rw [isFailed] at processing
    cases processing
  · rw [isCompleted] at processing
    cases processing

theorem HasFailed.completeJob (hasFailed : HasFailed failed claims queue)
    {jobId : String} (now : Time)
    (reported : (queue.reports.find? jobId).isSome = true) :
    HasFailed failed claims (completeJob jobId now queue) := by
  refine hasFailed.skip _ fun row _ ended => ?_
  by_cases same : row.jobId = jobId
  · have done : isCompleted row = true := by
      refine skipped_complete ended ?_
      intro _ none
      rw [← same, ended.jobId, none] at reported
      cases reported
    simp [done]
  · simp [same]

theorem HasFailed.completeReportedJobs
    (hasFailed : HasFailed failed claims queue) (now : Time) :
    HasFailed failed claims (completeReportedJobs now queue) := by
  refine hasFailed.skip _ fun row _ ended => ?_
  rcases ended with ⟨rfl, none⟩ | ⟨_, _, rfl, _⟩
  · simp [none]
  · simp [isCompleted, completeValues]

theorem HasFailed.claimJob (hasFailed : HasFailed failed claims queue)
    {settings : Settings} {now : Time} {locked : List String} {job : Job}
    (workerToken : String)
    (found : candidate now locked queue.jobs = some job) :
    HasFailed failed claims (claimJob settings now
      ⟨job.jobId, workerToken, job.jobVersion + 1⟩ queue) := by
  obtain ⟨member, eligible, _⟩ := candidate_some found
  obtain ⟨row, rowFound, ended⟩ := hasFailed.row
  have different : job.jobId ≠ failed.jobId := by
    intro same
    have here : queue.jobs.find? failed.jobId = some job := by
      rw [← same]
      exact Table.find?_of_mem member
    cases rowFound.symm.trans here
    have status := ended.status hasFailed.status
    rcases eligible_status eligible with queued | processing
    · simp [queued] at status
    · simp [processing] at status
  have kept : (queue.jobs.updateWhere
      (fun other => decide (other.jobId = job.jobId))
      (claimValues settings now workerToken)
      (claimValues_jobId settings now workerToken)).find? failed.jobId =
        some row :=
    Table.find?_updateWhere_skip _ rowFound
      (by simp [ended.jobId, Ne.symm different])
  refine ⟨hasFailed.status, ⟨row, kept, ended⟩, ?_⟩
  rw [claimsOf_claimJob, if_neg different]
  exact hasFailed.claims

theorem HasFailed.enqueueJob (hasFailed : HasFailed failed claims queue)
    {job : Job} {record : Export} {after : Queue}
    (enqueued : enqueueJob job record queue = .ok after) :
    HasFailed failed claims after := by
  obtain ⟨fresh, rfl⟩ := enqueueJob_ok enqueued
  obtain ⟨row, found, ended⟩ := hasFailed.row
  exact ⟨hasFailed.status, ⟨row, Table.find?_insert_old fresh found, ended⟩,
    hasFailed.claims⟩

theorem HasFailed.persistReport (hasFailed : HasFailed failed claims queue)
    {report : Report} {now : Time} {after : Queue}
    (inserted : persistReport report now queue = .ok after) :
    HasFailed failed claims after := by
  obtain ⟨fresh, _, rfl⟩ := persistReport_ok inserted
  obtain ⟨row, found, ended⟩ := hasFailed.row
  by_cases own : report.jobId = failed.jobId
  · have same : row = failed := by
      rcases ended with ⟨same, _⟩ | ⟨_, _, _, reported⟩
      · exact same
      · rw [own, reported] at fresh
        cases fresh
    subst same
    have completes : (Tasks.completeJob report.jobId now
        { queue with reports := queue.reports.insert report fresh }).jobs.find?
          row.jobId = some (completeValues now row) := by
      change (Table.updateWhere _ _ (completeValues now)
        (completeValues_jobId now)).find? row.jobId = _
      rw [Table.find?_updateWhere, found]
      simp [own, isCompleted, hasFailed.status]
    refine ⟨hasFailed.status, ⟨_, completes, .inr ⟨now, report, rfl, ?_⟩⟩,
      hasFailed.claims⟩
    change (queue.reports.insert report fresh).find? row.jobId = some report
    rw [Table.find?_insert, if_pos own]
  · have inserts : HasFailed failed claims
        { queue with reports := queue.reports.insert report fresh } := by
      refine ⟨hasFailed.status, ⟨row, found, ?_⟩, hasFailed.claims⟩
      unfold Ended
      rw [Table.find?_insert, if_neg own]
      exact ended
    refine inserts.skip _ fun other _ endedOther => ?_
    simp [endedOther.jobId, Ne.symm own]

theorem HasFailed.effect (hasFailed : HasFailed failed claims queue)
    {settings : Settings} {label : Label} {choice : Choice} {after : Queue}
    (effect : Effect settings queue label choice after) :
    HasFailed failed claims after := by
  cases effect with
  | unchanged => exact hasFailed
  | exported choice ownerId targetId jobId record after records enqueued =>
      exact hasFailed.enqueueJob enqueued
  | claimed choice now job workerToken found =>
      exact hasFailed.claimJob workerToken found
  | renewed choice claim leaseUntil updatedAt => exact hasFailed.fenced claim _
  | failed choice claim error permanent failed retryAt now decided =>
      exact hasFailed.fenced claim _
  | persisted choice report now after inserted =>
      exact hasFailed.persistReport inserted
  | completed choice jobId now reported => exact hasFailed.completeJob now reported
  | completedAll choice now => exact hasFailed.completeReportedJobs now

end Steps

/-! ## Every run -/

theorem hasFailed_of_row {queue : Queue} (wellFormed : WellFormed queue)
    {job : Job} (member : job ∈ queue.jobs.rows)
    (status : job.status = .failed) :
    HasFailed job (claimsOf queue job.jobId) queue := by
  have unreported := (wellFormed.jobs job member).unreported
    (by rw [status]; nofun)
  exact ⟨status, ⟨job, Table.find?_of_mem member, .inl ⟨rfl, unreported⟩⟩, rfl⟩

/-- A failed job is never claimed or requeued again.  It stays as it is until
its report is persisted; then it is completed. -/
theorem failed_until_reported (settings : Settings) (initial : Store)
    (empty : initial.queue = {}) (config : Config university (Except Exc Answer))
    (reachable : Reachable (queueSystem settings) anything initial config)
    (job : Job) (member : job ∈ config.store.queue.jobs.rows)
    (status : job.status = .failed)
    (last : Config university (Except Exc Answer))
    (run : Run (queueSystem settings) anything config last) :
    claimsOf last.store.queue job.jobId =
        claimsOf config.store.queue job.jobId ∧
      ∃ row, last.store.queue.jobs.find? job.jobId = some row ∧
        (row = job ∧ last.store.queue.reports.find? job.jobId = none ∨
          ∃ now report, row = completeValues now job ∧
            last.store.queue.reports.find? job.jobId = some report) := by
  have disciplined := queue_disciplined empty reachable
  have ended : HasFailed job (claimsOf config.store.queue job.jobId)
      last.store.queue :=
    (queue_obeys settings).preserves (fun _ _ _ _ => trivial)
      (fun store => HasFailed job (claimsOf config.store.queue job.jobId)
        store.queue)
      (fun _ _ _ _ _ _ effect _ before => before.effect effect) disciplined
      run (hasFailed_of_row disciplined.inv member status)
  exact ⟨ended.claims, ended.row⟩

/-! ## An execution that outlives the failure -/

def late : Choice := { now := 1000, uuid := "second" }

def fails : Choice := { late with call := .failed .operationalError "" }

/-- The first worker is about to persist its report.  The second has taken the
job over after the lease ran out, meets an error and records the failure. -/
def failedTurns : List (Turn university) :=
  turns 0 3 ++ turns 1 15 ++ List.replicate 3 ⟨2, late⟩ ++ [⟨2, fails⟩] ++
    List.replicate 4 ⟨2, late⟩

def failedJob : Config university (Except Exc Answer) :=
  exportAndCrash.played (queueSystem oneAttempt) accept failedTurns

theorem failedJob_reachable :
    Reachable (queueSystem oneAttempt) anything sampleStore failedJob :=
  exportAndCrash_reachable.trans
    (Config.played_run _ accept anything (fun _ _ _ _ => trivial)
      failedTurns exportAndCrash (by decide +kernel))

def completedJob : Config university (Except Exc Answer) :=
  failedJob.played (queueSystem oneAttempt) accept (turns 1 1)

theorem completedJob_run :
    Run (queueSystem oneAttempt) anything failedJob completedJob :=
  Config.played_run _ accept anything (fun _ _ _ _ => trivial) (turns 1 1)
    failedJob (by decide +kernel)

def failedRow : Job where
  jobId := ""
  jobVersion := 2
  status := .failed
  ownerId := 1
  workerToken := none
  leaseUntil := none
  reportType := "transcript"
  targetId := 1
  attemptCount := 2
  retryAt := none
  lastError := some "OperationalError: "
  createdAt := 0
  updatedAt := 1000

theorem failedRow_mem : failedRow ∈ failedJob.store.queue.jobs.rows := by
  decide +kernel

theorem failed_until_reported_completed :
    claimsOf completedJob.store.queue "" = claimsOf failedJob.store.queue "" ∧
      ∃ now, completedJob.store.queue.jobs.find? "" =
        some (completeValues now failedRow) := by
  obtain ⟨claims, row, found, ended⟩ := failed_until_reported oneAttempt
    sampleStore rfl failedJob failedJob_reachable failedRow failedRow_mem rfl
    completedJob completedJob_run
  have reported : completedJob.store.queue.reports.find? "" ≠ none := by
    decide +kernel
  rcases ended with ⟨_, unreported⟩ | ⟨now, _, same, _⟩
  · exact absurd unreported reported
  · rw [same] at found
    exact ⟨claims, now, found⟩

/-- A failed job is completed by an execution that claimed it before. -/
theorem late_report_completes_failed_job :
    ¬ ∀ (settings : Settings) (initial : Store), initial.queue = {} →
      ∀ config, Reachable (queueSystem settings) anything initial config →
      ∀ job ∈ config.store.queue.jobs.rows, job.status = .failed →
      ∀ last, Run (queueSystem settings) anything config last →
      ∀ later ∈ last.store.queue.jobs.rows, later.jobId = job.jobId →
        later.status = .failed := by
  intro stays
  have every := stays oneAttempt sampleStore rfl failedJob failedJob_reachable
    failedRow failedRow_mem rfl completedJob completedJob_run
  have completed : ¬ ∀ later ∈ completedJob.store.queue.jobs.rows,
      later.jobId = failedRow.jobId → later.status = .failed := by
    decide +kernel
  exact completed every

end SystemUni.Workers.Failures
