import SystemUni.Routers.Reports
import SystemUni.Workers.Runner

/-!
# The job queue as a state machine

`Effect` says once what a committed statement can do to the queue, whichever
function issued it.  The invariant and the evolution of the queue are derived
from it, one case per kind of statement.
-/

set_option autoImplicit false

namespace SystemUni.Workers.Queue

open Relational
open SystemUni.Runtime.Errors
open SystemUni.Runtime.Statements
open SystemUni.Models.Rows
open SystemUni.Models.Jobs
open SystemUni.Routers.Reports
open SystemUni.Workers.Tasks

/-! ## Claims of a job -/

def isClaimOf (jobId : String) (claim : ClaimedJob) : Bool :=
  decide (claim.jobId = jobId)

/-- The committed claims of a job, newest first. -/
def claimsOf (queue : Queue) (jobId : String) : List ClaimedJob :=
  queue.claims.filter (isClaimOf jobId)

def latestClaim (queue : Queue) (jobId : String) : Option ClaimedJob :=
  (claimsOf queue jobId).head?

/-- Every claim is numbered by the claims of its job up to and including
itself. -/
def Numbered : List ClaimedJob → Prop
  | [] => True
  | claim :: earlier =>
      claim.jobVersion =
        (earlier.filter (isClaimOf claim.jobId)).length + 1 ∧
      Numbered earlier

theorem Numbered.bound {claims : List ClaimedJob} (numbered : Numbered claims)
    {claim : ClaimedJob} (member : claim ∈ claims) :
    claim.jobVersion ≤ (claims.filter (isClaimOf claim.jobId)).length := by
  induction claims with
  | nil => cases member
  | cons latest earlier inductionHypothesis =>
      obtain ⟨number, older⟩ := numbered
      rcases List.mem_cons.mp member with rfl | member
      · simp [isClaimOf] at number ⊢
        omega
      · have bound := inductionHypothesis older member
        have grows : (earlier.filter (isClaimOf claim.jobId)).length ≤
            ((latest :: earlier).filter (isClaimOf claim.jobId)).length := by
          rw [List.filter_cons]
          split
          · simp
          · exact le_refl _
        omega

theorem Numbered.latest {claims : List ClaimedJob} (numbered : Numbered claims)
    {jobId : String} {claim : ClaimedJob}
    (newest : (claims.filter (isClaimOf jobId)).head? = some claim) :
    claim.jobId = jobId ∧
      claim.jobVersion = (claims.filter (isClaimOf jobId)).length := by
  induction claims with
  | nil => cases newest
  | cons latest earlier inductionHypothesis =>
      obtain ⟨number, older⟩ := numbered
      rw [List.filter_cons] at newest ⊢
      by_cases same : latest.jobId = jobId
      · have isClaim : isClaimOf jobId latest = true := by
          simp [isClaimOf, same]
        rw [if_pos isClaim] at newest ⊢
        cases Option.some.inj newest
        refine ⟨same, ?_⟩
        rw [List.length_cons, ← same]
        exact number
      · have isOther : ¬ isClaimOf jobId latest = true := by
          simp [isClaimOf, same]
        rw [if_neg isOther] at newest ⊢
        exact inductionHypothesis older newest

theorem Numbered.newest {claims : List ClaimedJob} (numbered : Numbered claims)
    {claim : ClaimedJob} (member : claim ∈ claims)
    (last : claim.jobVersion =
      (claims.filter (isClaimOf claim.jobId)).length) :
    (claims.filter (isClaimOf claim.jobId)).head? = some claim := by
  induction claims with
  | nil => cases member
  | cons latest earlier inductionHypothesis =>
      obtain ⟨number, older⟩ := numbered
      rw [List.filter_cons] at last ⊢
      rcases List.mem_cons.mp member with rfl | member
      · simp [isClaimOf]
      · have bound := older.bound member
        by_cases same : isClaimOf claim.jobId latest = true
        · rw [if_pos same, List.length_cons] at last
          omega
        · rw [if_neg same] at last ⊢
          exact inductionHypothesis older member last

theorem Numbered.increasing {claims : List ClaimedJob}
    (numbered : Numbered claims) :
    claims.Pairwise fun later earlier =>
      later.jobId = earlier.jobId → earlier.jobVersion < later.jobVersion := by
  induction claims with
  | nil => exact .nil
  | cons latest earlier inductionHypothesis =>
      obtain ⟨number, older⟩ := numbered
      refine List.pairwise_cons.mpr ⟨?_, inductionHypothesis older⟩
      intro claim member same
      have bound := older.bound member
      rw [← same] at bound
      omega

/-! ## The invariant -/

/-- The columns that go with each status. -/
structure RowShape (job : Job) : Prop where
  known : ∀ text, job.status ≠ .other text
  queued : job.status = .queued →
    job.workerToken = none ∧ job.leaseUntil = none ∧
      (job.retryAt = none ↔ job.lastError = none) ∧
      (job.lastError = none ↔ job.attemptCount = 0)
  processing : job.status = .processing →
    job.workerToken ≠ none ∧ job.leaseUntil ≠ none ∧
      job.retryAt = none ∧ job.lastError = none ∧ 1 ≤ job.attemptCount
  failed : job.status = .failed →
    job.workerToken = none ∧ job.leaseUntil = none ∧
      job.retryAt = none ∧ job.lastError ≠ none
  completed : job.status = .completed →
    job.workerToken = none ∧ job.leaseUntil = none ∧
      job.retryAt = none ∧ job.lastError = none

def Records (record : Export) (job : Job) : Prop :=
  record.jobId = job.jobId ∧ record.ownerId = job.ownerId ∧
    record.targetId = job.targetId

/-- What holds of each row of the job table. -/
structure JobOk (queue : Queue) (job : Job) : Prop where
  shape : RowShape job
  version : job.jobVersion = (claimsOf queue job.jobId).length
  attempts : job.attemptCount = (claimsOf queue job.jobId).length
  reported : job.status = .completed ↔
    (queue.reports.find? job.jobId).isSome = true
  held : job.status = .processing → ∃ claim,
    latestClaim queue job.jobId = some claim ∧
      job.workerToken = some claim.workerToken
  exported : ∃ record ∈ queue.exports, Records record job

structure WellFormed (queue : Queue) : Prop where
  jobs : ∀ job ∈ queue.jobs.rows, JobOk queue job
  numbered : Numbered queue.claims
  claimed : ∀ claim ∈ queue.claims, queue.jobs.HasKey claim.jobId
  reports : ∀ report ∈ queue.reports.rows, queue.jobs.HasKey report.jobId

theorem wellFormed_empty : WellFormed {} where
  jobs job member := by cases member
  numbered := trivial
  claimed claim member := by cases member
  reports report member := by cases member

theorem JobOk.same_count {queue : Queue} {job : Job} (ok : JobOk queue job) :
    job.attemptCount = job.jobVersion := ok.attempts.trans ok.version.symm

theorem JobOk.unreported {queue : Queue} {job : Job} (ok : JobOk queue job)
    (open_ : job.status ≠ .completed) :
    queue.reports.find? job.jobId = none := by
  have absent := mt ok.reported.mpr open_
  simpa using absent

/-- `JobOk` depends on the log of exports and, for this job only, on the
claims and the report. -/
theorem JobOk.transfer {queue next : Queue} {job : Job} (ok : JobOk queue job)
    (claims : claimsOf next job.jobId = claimsOf queue job.jobId)
    (reports : next.reports.find? job.jobId = queue.reports.find? job.jobId)
    (exports : ∀ record ∈ queue.exports, record ∈ next.exports) :
    JobOk next job where
  shape := ok.shape
  version := by rw [claims]; exact ok.version
  attempts := by rw [claims]; exact ok.attempts
  reported := by rw [reports]; exact ok.reported
  held processing := by
    unfold latestClaim
    rw [claims]
    exact ok.held processing
  exported := by
    obtain ⟨record, member, records⟩ := ok.exported
    exact ⟨record, exports record member, records⟩

theorem hasKey_updateWhere {jobs : Table Job.jobId} {condition : Job → Bool}
    {change : Job → Job} (same : ∀ job, (change job).jobId = job.jobId)
    {jobId : String} (has : jobs.HasKey jobId) :
    (jobs.updateWhere condition change same).HasKey jobId := by
  obtain ⟨job, member, rfl⟩ := has
  refine ⟨_, (Table.mem_updateWhere same).mpr ⟨job, member, rfl⟩, ?_⟩
  split
  · exact same job
  · rfl

/-- Updating job rows keeps the invariant if it holds of the rows as they
become, whatever happens to them. -/
theorem WellFormed.update {queue : Queue} (wellFormed : WellFormed queue)
    (condition : Job → Bool) (change : Job → Job)
    (same : ∀ job, (change job).jobId = job.jobId)
    (rows : ∀ job ∈ queue.jobs.rows, condition job = true →
      JobOk queue (change job)) :
    WellFormed { queue with
      jobs := queue.jobs.updateWhere condition change same } where
  jobs row member := by
    obtain ⟨job, old, becomes⟩ := (Table.mem_updateWhere same).mp member
    have ok : JobOk queue row := by
      subst becomes
      split
      · rename_i applies
        exact rows job old applies
      · exact wellFormed.jobs job old
    exact ok.transfer rfl rfl fun _ member => member
  numbered := wellFormed.numbered
  claimed claim member :=
    hasKey_updateWhere same (wellFormed.claimed claim member)
  reports report member :=
    hasKey_updateWhere same (wellFormed.reports report member)

/-! ## What one committed statement does -/

/-- What `_record_failure` decides for a job with this attempt count. -/
structure Decision (settings : Settings) (permanent : Bool)
    (attemptCount : Nat) (failed : Bool) (retryAt : Option Time)
    (now : Time) : Prop where
  failed_iff : failed =
    (permanent || decide (settings.jobMaxAttempts ≤ attemptCount))
  final : failed = true → retryAt = none
  retry : failed = false → ∃ jitter time,
    retryTime settings attemptCount jitter now = .ok time ∧
      retryAt = some time

inductive Effect (settings : Settings) (before : Queue) :
    Label → Choice → Queue → Prop where
  | unchanged (label : Label) (choice : Choice) :
      Effect settings before label choice before
  | exported (choice : Choice) (ownerId targetId : Id) (jobId : String)
      (record : Export) (after : Queue)
      (records : Records record (newJob jobId ownerId targetId choice.now))
      (enqueued : enqueueJob (newJob jobId ownerId targetId choice.now) record
        before = .ok after) :
      Effect settings before (.queue .exportTranscript) choice after
  | claimed (choice : Choice) (now : Time) (job : Job) (workerToken : String)
      (found : candidate now choice.lockedJobs before.jobs = some job) :
      Effect settings before (.queue (.claimNextJob now)) choice
        (claimJob settings now ⟨job.jobId, workerToken, job.jobVersion + 1⟩
          before)
  | renewed (choice : Choice) (claim : ClaimedJob)
      (leaseUntil updatedAt : Time) :
      Effect settings before (.queue (.renewLease claim)) choice
        (extendLease claim leaseUntil updatedAt before)
  | failed (choice : Choice) (claim : ClaimedJob) (error : Exc)
      (permanent failed : Bool) (retryAt : Option Time) (now : Time)
      (decided : ∀ job ∈ before.jobs.rows, heldUnder claim job = true →
        Decision settings permanent job.attemptCount failed retryAt now) :
      Effect settings before (.queue (.recordFailure claim error permanent))
        choice (failJob claim failed retryAt (errorMessage error) now before)
  | persisted (choice : Choice) (report : Report) (now : Time) (after : Queue)
      (inserted : persistReport report now before = .ok after) :
      Effect settings before (.queue (.persistReport report.jobId)) choice
        after
  | completed (choice : Choice) (jobId : String) (now : Time)
      (reported : (before.reports.find? jobId).isSome = true) :
      Effect settings before (.queue (.reconcileJob jobId)) choice
        (completeJob jobId now before)
  | completedAll (choice : Choice) (now : Time) :
      Effect settings before (.queue .reconcileJobs) choice
        (completeReportedJobs now before)

/-! ## Each effect keeps the invariant -/

theorem shape_complete (now : Time) (job : Job) :
    RowShape (completeValues now job) where
  known := by simp [completeValues]
  queued := by simp [completeValues]
  processing := by simp [completeValues]
  failed := by simp [completeValues]
  completed := by simp [completeValues]

theorem JobOk.complete {queue : Queue} {job : Job} (ok : JobOk queue job)
    (now : Time)
    (reported : (queue.reports.find? job.jobId).isSome = true) :
    JobOk queue (completeValues now job) where
  shape := shape_complete now job
  version := ok.version
  attempts := ok.attempts
  reported := ⟨fun _ => reported, fun _ => rfl⟩
  held processing := by cases processing
  exported := ok.exported

theorem WellFormed.completeJob {queue : Queue} (wellFormed : WellFormed queue)
    {jobId : String} (now : Time)
    (reported : (queue.reports.find? jobId).isSome = true) :
    WellFormed (completeJob jobId now queue) := by
  refine wellFormed.update _ _ _ ?_
  intro job member applies
  have same : job.jobId = jobId := by
    simp only [Bool.and_eq_true, decide_eq_true_eq] at applies
    exact applies.1
  exact (wellFormed.jobs job member).complete now (by rw [same]; exact reported)

theorem WellFormed.completeReportedJobs {queue : Queue}
    (wellFormed : WellFormed queue) (now : Time) :
    WellFormed (completeReportedJobs now queue) := by
  refine wellFormed.update _ _ _ ?_
  intro job member applies
  have reported := (Bool.and_eq_true_iff.mp applies).1
  exact (wellFormed.jobs job member).complete now reported

theorem heldUnder_iff {claim : ClaimedJob} {job : Job} :
    heldUnder claim job = true ↔ job.jobId = claim.jobId ∧
      job.status = .processing ∧ job.workerToken = some claim.workerToken ∧
      job.jobVersion = claim.jobVersion := by
  simp [heldUnder, and_assoc]

theorem shape_lease {job : Job} (shape : RowShape job)
    (processing : job.status = .processing) (leaseUntil updatedAt : Time) :
    RowShape (leaseValues leaseUntil updatedAt job) := by
  obtain ⟨token, _, retry, error, attempted⟩ := shape.processing processing
  exact {
    known := shape.known
    queued := by simp [leaseValues, processing]
    processing := fun _ =>
      ⟨token, by simp [leaseValues], retry, error, attempted⟩
    failed := by simp [leaseValues, processing]
    completed := by simp [leaseValues, processing] }

theorem WellFormed.extendLease {queue : Queue} (wellFormed : WellFormed queue)
    (claim : ClaimedJob) (leaseUntil updatedAt : Time) :
    WellFormed (extendLease claim leaseUntil updatedAt queue) := by
  refine wellFormed.update _ _ _ ?_
  intro job member applies
  obtain ⟨_, processing, _, _⟩ := heldUnder_iff.mp applies
  have ok := wellFormed.jobs job member
  exact {
    shape := shape_lease ok.shape processing leaseUntil updatedAt
    version := ok.version
    attempts := ok.attempts
    reported := ok.reported
    held := ok.held
    exported := ok.exported }

theorem shape_failure {settings : Settings} {permanent failed : Bool}
    {retryAt : Option Time} {message : String} {now : Time} {job : Job}
    (attempted : 1 ≤ job.attemptCount)
    (decision : Decision settings permanent job.attemptCount failed retryAt
      now) :
    RowShape (failureValues failed retryAt message now job) := by
  cases failed with
  | true =>
      have none := decision.final rfl
      subst none
      exact {
        known := by simp [failureValues]
        queued := by simp [failureValues]
        processing := by simp [failureValues]
        failed := by simp [failureValues]
        completed := by simp [failureValues] }
  | false =>
      obtain ⟨jitter, time, _, rfl⟩ := decision.retry rfl
      exact {
        known := by simp [failureValues]
        queued := by simp [failureValues]; omega
        processing := by simp [failureValues]
        failed := by simp [failureValues]
        completed := by simp [failureValues] }

theorem WellFormed.failJob {settings : Settings} {queue : Queue}
    (wellFormed : WellFormed queue) {claim : ClaimedJob}
    {permanent failed : Bool} {retryAt : Option Time} (message : String)
    {now : Time}
    (decided : ∀ job ∈ queue.jobs.rows, heldUnder claim job = true →
      Decision settings permanent job.attemptCount failed retryAt now) :
    WellFormed (failJob claim failed retryAt message now queue) := by
  refine wellFormed.update _ _ _ ?_
  intro job member applies
  obtain ⟨_, processing, _, _⟩ := heldUnder_iff.mp applies
  have ok := wellFormed.jobs job member
  obtain ⟨_, _, _, _, attempted⟩ := ok.shape.processing processing
  have none := ok.unreported (by simp [processing])
  exact {
    shape := shape_failure attempted (decided job member applies)
    version := ok.version
    attempts := ok.attempts
    reported := by
      have absent : queue.reports.find?
          (failureValues failed retryAt message now job).jobId = .none := none
      rw [absent]
      cases failed <;> simp [failureValues]
    held := by cases failed <;> simp [failureValues]
    exported := ok.exported }

theorem persistReport_ok {report : Report} {now : Time} {queue after : Queue}
    (inserted : persistReport report now queue = .ok after) :
    ∃ fresh : queue.reports.find? report.jobId = none,
      queue.jobs.HasKey report.jobId ∧
      after = Tasks.completeJob report.jobId now
        { queue with reports := queue.reports.insert report fresh } := by
  unfold persistReport at inserted
  split at inserted
  · rename_i fresh
    split at inserted
    · cases inserted
    · rename_i found
      cases inserted
      refine ⟨fresh, ?_, rfl⟩
      rw [Option.isNone_iff_eq_none] at found
      obtain ⟨job, here⟩ := Option.ne_none_iff_exists'.mp found
      exact ⟨job, Table.mem_of_find? here, Table.key_of_find? here⟩
  · cases inserted

theorem WellFormed.persistReport {queue after : Queue}
    (wellFormed : WellFormed queue) {report : Report} {now : Time}
    (inserted : persistReport report now queue = .ok after) :
    WellFormed after := by
  obtain ⟨fresh, has, rfl⟩ := persistReport_ok inserted
  -- The row of the reported job is the only one the new report changes.
  have elsewhere : ∀ jobId, jobId ≠ report.jobId →
      (queue.reports.insert report fresh).find? jobId =
        queue.reports.find? jobId := by
    intro jobId different
    rw [Table.find?_insert, if_neg (Ne.symm different)]
  have here : (queue.reports.insert report fresh).find? report.jobId =
      some report := by
    rw [Table.find?_insert, if_pos rfl]
  refine {
    jobs := ?_
    numbered := wellFormed.numbered
    claimed := fun claim member =>
      hasKey_updateWhere (completeValues_jobId now) (wellFormed.claimed claim member)
    reports := ?_ }
  · intro row member
    obtain ⟨job, old, becomes⟩ :=
      (Table.mem_updateWhere (completeValues_jobId now)).mp member
    have ok := wellFormed.jobs job old
    by_cases same : job.jobId = report.jobId
    · have absent : (queue.reports.find? job.jobId).isSome = false := by
        rw [same, fresh]
        rfl
      have unfinished : isCompleted job = false := by
        simpa [isCompleted, absent] using ok.reported
      have completes : completeValues now job = row := by
        simpa [same, unfinished] using becomes
      subst completes
      exact {
        shape := shape_complete now job
        version := ok.version
        attempts := ok.attempts
        reported := by
          refine ⟨fun _ => ?_, fun _ => rfl⟩
          change ((queue.reports.insert report fresh).find? job.jobId).isSome =
            true
          rw [same, here]
          rfl
        held := by simp [completeValues]
        exported := ok.exported }
    · have keeps : job = row := by simpa [same] using becomes
      subst keeps
      exact ok.transfer rfl (elsewhere job.jobId same) fun _ member => member
  · intro other member
    rcases (Table.mem_insert fresh).mp member with member | rfl
    · exact hasKey_updateWhere (completeValues_jobId now) (wellFormed.reports other member)
    · exact hasKey_updateWhere (completeValues_jobId now) has

theorem enqueueJob_ok {job : Job} {record : Export} {queue after : Queue}
    (enqueued : enqueueJob job record queue = .ok after) :
    ∃ fresh : queue.jobs.find? job.jobId = none,
      after = { queue with
        jobs := queue.jobs.insert job fresh
        exports := record :: queue.exports } := by
  unfold enqueueJob at enqueued
  split at enqueued
  · rename_i fresh
    cases enqueued
    exact ⟨fresh, rfl⟩
  · cases enqueued

theorem hasKey_insert {jobs : Table Job.jobId} {job : Job}
    (fresh : jobs.find? job.jobId = none) {jobId : String}
    (has : jobs.HasKey jobId) : (jobs.insert job fresh).HasKey jobId := by
  obtain ⟨old, member, same⟩ := has
  exact ⟨old, (Table.mem_insert fresh).mpr (.inl member), same⟩

theorem not_hasKey {jobs : Table Job.jobId} {jobId : String}
    (fresh : jobs.find? jobId = none) : ¬ jobs.HasKey jobId := by
  rintro ⟨job, member, same⟩
  exact Table.find?_eq_none_iff.mp fresh job member same

theorem WellFormed.fresh {queue : Queue} (wellFormed : WellFormed queue)
    {jobId : String} (fresh : queue.jobs.find? jobId = none) :
    claimsOf queue jobId = [] ∧ queue.reports.find? jobId = none := by
  constructor
  · refine List.filter_eq_nil_iff.mpr ?_
    intro claim member isClaim
    have same : claim.jobId = jobId := by simpa [isClaimOf] using isClaim
    exact not_hasKey fresh (same ▸ wellFormed.claimed claim member)
  · refine Table.find?_eq_none_iff.mpr ?_
    intro report member same
    exact not_hasKey fresh (same ▸ wellFormed.reports report member)

theorem WellFormed.enqueueJob {queue after : Queue}
    (wellFormed : WellFormed queue) {jobId : String} {ownerId targetId : Id}
    {now : Time} {record : Export}
    (records : Records record (newJob jobId ownerId targetId now))
    (enqueued : enqueueJob (newJob jobId ownerId targetId now) record queue =
      .ok after) :
    WellFormed after := by
  obtain ⟨fresh, rfl⟩ := enqueueJob_ok enqueued
  obtain ⟨noClaims, noReport⟩ := wellFormed.fresh fresh
  refine {
    jobs := ?_
    numbered := wellFormed.numbered
    claimed := fun claim member =>
      hasKey_insert fresh (wellFormed.claimed claim member)
    reports := fun report member =>
      hasKey_insert fresh (wellFormed.reports report member) }
  intro job member
  rcases (Table.mem_insert fresh).mp member with old | rfl
  · exact (wellFormed.jobs job old).transfer rfl rfl
      fun _ member => List.mem_cons_of_mem _ member
  · exact {
      shape := {
        known := by simp [newJob]
        queued := by simp [newJob]
        processing := by simp [newJob]
        failed := by simp [newJob]
        completed := by simp [newJob] }
      version := (congrArg List.length noClaims).symm
      attempts := (congrArg List.length noClaims).symm
      reported := by
        change JobStatus.queued = .completed ↔
          (queue.reports.find? jobId).isSome = true
        have absent : queue.reports.find? jobId = none := noReport
        simp [absent]
      held := by simp [newJob]
      exported := ⟨record, List.mem_cons_self .., records⟩ }

/-! ### Claiming -/

theorem candidate_some {now : Time} {locked : List String}
    {jobs : Table Job.jobId} {job : Job}
    (found : candidate now locked jobs = some job) :
    job ∈ jobs.rows ∧ (ready now job = true ∨ abandoned now job = true) ∧
      job.jobId ∉ locked := by
  have member := List.mem_of_mem_head? found
  rw [List.mem_insertionSort] at member
  obtain ⟨here, eligible⟩ := List.mem_filter.mp member
  simp only [Bool.and_eq_true, Bool.or_eq_true, Bool.not_eq_true',
    List.contains_eq_mem, decide_eq_false_iff_not] at eligible
  exact ⟨here, eligible⟩

theorem eligible_status {now : Time} {job : Job}
    (eligible : ready now job = true ∨ abandoned now job = true) :
    job.status = .queued ∨ job.status = .processing := by
  rcases eligible with isReady | isAbandoned
  · simp only [ready, Bool.and_eq_true, decide_eq_true_eq] at isReady
    exact .inl isReady.1
  · simp only [abandoned, Bool.and_eq_true, decide_eq_true_eq] at isAbandoned
    exact .inr isAbandoned.1

theorem claimsOf_claimJob (settings : Settings) (now : Time)
    (claim : ClaimedJob) (queue : Queue) (jobId : String) :
    claimsOf (claimJob settings now claim queue) jobId =
      if claim.jobId = jobId then claim :: claimsOf queue jobId
      else claimsOf queue jobId := by
  unfold claimsOf claimJob
  rw [List.filter_cons]
  simp [isClaimOf]

theorem WellFormed.claimJob {settings : Settings} {queue : Queue}
    (wellFormed : WellFormed queue) {now : Time} {locked : List String}
    {job : Job} (workerToken : String)
    (found : candidate now locked queue.jobs = some job) :
    WellFormed (claimJob settings now
      ⟨job.jobId, workerToken, job.jobVersion + 1⟩ queue) := by
  obtain ⟨member, eligible, _⟩ := candidate_some found
  have ok := wellFormed.jobs job member
  have unfinished : job.status ≠ .completed := by
    rcases eligible_status eligible with queued | processing
    · simp [queued]
    · simp [processing]
  have none := ok.unreported unfinished
  refine {
    jobs := ?_
    numbered := ⟨?_, wellFormed.numbered⟩
    claimed := ?_
    reports := fun report member =>
      hasKey_updateWhere (claimValues_jobId settings now workerToken) (wellFormed.reports report member) }
  · intro row rowMember
    obtain ⟨old, oldMember, becomes⟩ :=
      (Table.mem_updateWhere
        (claimValues_jobId settings now workerToken)).mp rowMember
    by_cases same : old.jobId = job.jobId
    · have isJob : old = job :=
        queue.jobs.eq_of_key_eq oldMember member same
      subst isJob
      have claimed : claimValues settings now workerToken old = row := by
        simpa using becomes
      subst claimed
      have claims := claimsOf_claimJob settings now
        ⟨old.jobId, workerToken, old.jobVersion + 1⟩ queue old.jobId
      rw [if_pos rfl] at claims
      exact {
        shape := {
          known := by simp [claimValues]
          queued := by simp [claimValues]
          processing := by simp [claimValues]
          failed := by simp [claimValues]
          completed := by simp [claimValues] }
        version := by
          change old.jobVersion + 1 = (claimsOf _ old.jobId).length
          rw [claims, List.length_cons, ok.version]
        attempts := by
          change old.attemptCount + 1 = (claimsOf _ old.jobId).length
          rw [claims, List.length_cons, ok.attempts]
        reported := by
          change JobStatus.processing = .completed ↔
            (queue.reports.find? old.jobId).isSome = true
          simp [none]
        held := by
          intro _
          refine ⟨⟨old.jobId, workerToken, old.jobVersion + 1⟩, ?_, rfl⟩
          change (claimsOf _ old.jobId).head? = _
          rw [claims]
          rfl
        exported := ok.exported }
    · have keeps : old = row := by simpa [same] using becomes
      subst keeps
      refine (wellFormed.jobs old oldMember).transfer ?_ rfl
        fun _ member => member
      rw [claimsOf_claimJob, if_neg (Ne.symm same)]
  · change job.jobVersion + 1 = (claimsOf queue job.jobId).length + 1
    rw [ok.version]
  · intro claim claimMember
    rcases List.mem_cons.mp claimMember with rfl | earlier
    · exact hasKey_updateWhere (claimValues_jobId settings now workerToken) ⟨job, member, rfl⟩
    · exact hasKey_updateWhere (claimValues_jobId settings now workerToken)
        (wellFormed.claimed claim earlier)

/-- One committed statement keeps the queue well formed. -/
theorem Effect.wellFormed {settings : Settings} {before after : Queue}
    {label : Label} {choice : Choice}
    (effect : Effect settings before label choice after)
    (wellFormed : WellFormed before) : WellFormed after := by
  cases effect with
  | unchanged label choice => exact wellFormed
  | exported choice ownerId targetId jobId record after records enqueued =>
      exact wellFormed.enqueueJob records enqueued
  | claimed choice now job workerToken found =>
      exact wellFormed.claimJob workerToken found
  | renewed choice claim leaseUntil updatedAt =>
      exact wellFormed.extendLease claim leaseUntil updatedAt
  | failed choice claim error permanent failed retryAt now decided =>
      exact wellFormed.failJob (errorMessage error) decided
  | persisted choice report now after inserted => exact wellFormed.persistReport inserted
  | completed choice jobId now reported => exact wellFormed.completeJob now reported
  | completedAll choice now => exact wellFormed.completeReportedJobs now

/-! ## How the queue evolves -/

/-- What no statement ever changes in a job row, and its version, which only
grows. -/
structure JobEvolves (job next : Job) : Prop where
  jobId : next.jobId = job.jobId
  ownerId : next.ownerId = job.ownerId
  reportType : next.reportType = job.reportType
  targetId : next.targetId = job.targetId
  version : job.jobVersion ≤ next.jobVersion

theorem JobEvolves.refl (job : Job) : JobEvolves job job :=
  ⟨rfl, rfl, rfl, rfl, le_refl _⟩

theorem JobEvolves.trans {first middle last : Job}
    (before : JobEvolves first middle) (after : JobEvolves middle last) :
    JobEvolves first last :=
  ⟨after.jobId.trans before.jobId, after.ownerId.trans before.ownerId,
    after.reportType.trans before.reportType,
    after.targetId.trans before.targetId,
    le_trans before.version after.version⟩

structure Evolves (before after : Queue) : Prop where
  jobs : ∀ job ∈ before.jobs.rows, ∃ next ∈ after.jobs.rows,
    JobEvolves job next
  reports : ∀ report ∈ before.reports.rows, report ∈ after.reports.rows
  claims : before.claims <:+ after.claims
  exports : before.exports <:+ after.exports

theorem Evolves.refl (queue : Queue) : Evolves queue queue where
  jobs job member := ⟨job, member, .refl job⟩
  reports _ member := member
  claims := List.suffix_refl _
  exports := List.suffix_refl _

theorem Evolves.trans {first middle last : Queue}
    (before : Evolves first middle) (after : Evolves middle last) :
    Evolves first last where
  jobs job member := by
    obtain ⟨next, nextMember, evolves⟩ := before.jobs job member
    obtain ⟨final, finalMember, further⟩ := after.jobs next nextMember
    exact ⟨final, finalMember, evolves.trans further⟩
  reports report member := after.reports report (before.reports report member)
  claims := before.claims.trans after.claims
  exports := before.exports.trans after.exports

theorem Evolves.report {before after : Queue} (evolves : Evolves before after)
    {jobId : String} {report : Report}
    (found : before.reports.find? jobId = some report) :
    after.reports.find? jobId = some report := by
  rw [Table.find?_eq_some_iff] at found ⊢
  exact ⟨evolves.reports report found.1, found.2⟩

theorem Evolves.update {queue : Queue} {condition : Job → Bool}
    {change : Job → Job} (same : ∀ job, (change job).jobId = job.jobId)
    (rows : ∀ job, JobEvolves job (change job)) :
    Evolves queue { queue with
      jobs := queue.jobs.updateWhere condition change same } where
  jobs job member := by
    refine ⟨_, (Table.mem_updateWhere same).mpr ⟨job, member, rfl⟩, ?_⟩
    split
    · exact rows job
    · exact .refl job
  reports _ member := member
  claims := List.suffix_refl _
  exports := List.suffix_refl _

theorem evolves_complete (now : Time) (job : Job) :
    JobEvolves job (completeValues now job) :=
  ⟨rfl, rfl, rfl, rfl, le_refl _⟩

theorem Evolves.completeJob (jobId : String) (now : Time) (queue : Queue) :
    Evolves queue (completeJob jobId now queue) :=
  .update (completeValues_jobId now) (evolves_complete now)

theorem Evolves.claimJob (settings : Settings) (now : Time)
    (claim : ClaimedJob) (queue : Queue) :
    Evolves queue (claimJob settings now claim queue) := by
  have updated : Evolves queue { queue with
      jobs := (Tasks.claimJob settings now claim queue).jobs } :=
    .update (claimValues_jobId settings now claim.workerToken)
      fun job => ⟨rfl, rfl, rfl, rfl, Nat.le_succ _⟩
  exact ⟨updated.jobs, updated.reports, List.suffix_cons _ _,
    List.suffix_refl _⟩

theorem Evolves.persistReport {report : Report} {now : Time}
    {queue after : Queue}
    (inserted : persistReport report now queue = .ok after) :
    Evolves queue after := by
  obtain ⟨fresh, _, rfl⟩ := persistReport_ok inserted
  have reported : Evolves queue
      { queue with reports := queue.reports.insert report fresh } :=
    ⟨fun job member => ⟨job, member, .refl job⟩,
      fun old member => (Table.mem_insert fresh).mpr (.inl member),
      List.suffix_refl _, List.suffix_refl _⟩
  exact reported.trans (.completeJob report.jobId now _)

theorem Evolves.enqueueJob {job : Job} {record : Export}
    {queue after : Queue} (enqueued : enqueueJob job record queue = .ok after) :
    Evolves queue after := by
  obtain ⟨fresh, rfl⟩ := enqueueJob_ok enqueued
  exact ⟨fun old member =>
      ⟨old, (Table.mem_insert fresh).mpr (.inl member), .refl old⟩,
    fun _ member => member, List.suffix_refl _, List.suffix_cons _ _⟩

theorem Effect.evolves {settings : Settings} {before after : Queue}
    {label : Label} {choice : Choice}
    (effect : Effect settings before label choice after) :
    Evolves before after := by
  cases effect with
  | unchanged label choice => exact .refl before
  | exported choice ownerId targetId jobId record after records enqueued =>
      exact .enqueueJob enqueued
  | claimed choice now job workerToken found =>
      exact .claimJob settings now _ before
  | renewed choice claim leaseUntil updatedAt =>
      exact .update (leaseValues_jobId leaseUntil updatedAt)
        fun job => ⟨rfl, rfl, rfl, rfl, le_refl _⟩
  | failed choice claim error permanent failed retryAt now decided =>
      exact .update (failureValues_jobId failed retryAt _ now)
        fun job => ⟨rfl, rfl, rfl, rfl, le_refl _⟩
  | persisted choice report now after inserted => exact .persistReport inserted
  | completed choice jobId now reported => exact .completeJob jobId now before
  | completedAll choice now =>
      exact .update (completeValues_jobId now) (evolves_complete now)

end SystemUni.Workers.Queue
