import SystemUni.Workers.Service

/-!
# What the report service guarantees

Completion is arbitrated by the report row, writes under a lease are fenced by
the latest claim, job rows keep their shape, and attempts stay within their
bound as long as no exhausted job is taken over from a dead worker.
-/

set_option autoImplicit false

namespace SystemUni.Workers.Guarantees

open Interleaving Relational
open SystemUni.Runtime.Errors
open SystemUni.Runtime.Statements
open SystemUni.Runtime.Rules
open SystemUni.Models.Rows
open SystemUni.Models.Jobs
open SystemUni.Models.Schema
open SystemUni.Routers.Reports
open SystemUni.Workers.Tasks
open SystemUni.Workers.Queue
open SystemUni.Workers.Execution
open SystemUni.Workers.Service

section Reachability

variable {settings : Settings} {initial : Store}
  {config : Config university (Except Exc Answer)}

theorem queue_disciplined (empty : initial.queue = {})
    (reachable : Reachable (queueSystem settings) anything initial config) :
    Disciplined (queueDiscipline settings) finishOk config := by
  have wellFormed : WellFormed initial.queue := by
    rw [empty]
    exact wellFormed_empty
  exact (queue_obeys settings).sound wellFormed reachable

theorem run_evolves
    (disciplined : Disciplined (queueDiscipline settings) finishOk config)
    {last : Config university (Except Exc Answer)}
    (run : Run (queueSystem settings) anything config last) :
    Evolves config.store.queue last.store.queue :=
  (queue_obeys settings).relates
    (fun before after => Evolves before.queue after.queue)
    (fun store => .refl store.queue) (fun before after => before.trans after)
    (fun _ _ _ _ _ _ effect => Effect.evolves effect) disciplined run

end Reachability

/-! ## A run for examples -/

/-- An export of the only student's transcript and one turn of a worker. -/
def exportAndExecute : Config university (Except Exc Answer) where
  store := sampleStore
  threads := [settle (exportTranscriptAsync 1 sampleAdmin),
    workerTurn .default]

def turns (thread count : Nat) : List (Turn university) :=
  plain (List.replicate count thread)

theorem exportAndExecute_reachable {condition : Condition university} :
    Reachable (queueSystem .default) condition sampleStore
      exportAndExecute := by
  refine arrivals_run _ _ _ exportAndExecute.threads ?_
  intro program member
  simp only [exportAndExecute, List.mem_cons, List.not_mem_nil,
    or_false] at member
  rcases member with rfl | rfl
  · exact .exportTranscriptAsync 1 sampleAdmin
  · exact .runOnce

/-- The export commits, then the worker claims, generates and persists. -/
def executed : Config university (Except Exc Answer) :=
  exportAndExecute.played (queueSystem .default) accept
    (turns 0 3 ++ turns 1 17)

theorem executed_reachable :
    Reachable (queueSystem .default) anything { db := sampleDatabase }
      executed :=
  exportAndExecute_reachable.trans
    (Config.played_run _ accept anything (fun _ _ _ _ => trivial)
      (turns 0 3 ++ turns 1 17) exportAndExecute (by decide +kernel))

/-! ## Reports and completion -/

theorem completed_stays {queue : Queue} (wellFormed : WellFormed queue)
    {report : Report} (member : report ∈ queue.reports.rows) :
    queue.reports.find? report.jobId = some report ∧
      ∃ job, queue.jobs.find? report.jobId = some job ∧
        job.status = .completed := by
  have found := Table.find?_of_mem member
  obtain ⟨job, jobMember, same⟩ := wellFormed.reports report member
  refine ⟨found, job, ?_, ?_⟩
  · rw [← same]
    exact Table.find?_of_mem jobMember
  · rw [(wellFormed.jobs job jobMember).reported, same, found]
    rfl

/-- A job is completed exactly when it has its one report row; from then on
neither changes, and every execution that answers a result answers that
row's. -/
theorem report_completes_job (settings : Settings) (initial : Store)
    (empty : initial.queue = {})
    (config : Config university (Except Exc Answer))
    (reachable : Reachable (queueSystem settings) anything initial config) :
    (∀ job ∈ config.store.queue.jobs.rows, job.status = .completed ↔
      config.store.queue.reports.rows.countP
        (fun report => decide (report.jobId = job.jobId)) = 1) ∧
    (∀ report ∈ config.store.queue.reports.rows, ∀ last,
      Run (queueSystem settings) anything config last →
        last.store.queue.reports.find? report.jobId = some report ∧
        ∃ job, last.store.queue.jobs.find? report.jobId = some job ∧
          job.status = .completed) ∧
    (∀ claim result transcript,
      Prog.ret (.ok (.executed claim result)) ∈ config.threads →
      result.result = some transcript →
        config.store.queue.reports.find? claim.jobId =
          some ⟨claim.jobId, transcript⟩) := by
  have disciplined := queue_disciplined empty reachable
  refine ⟨?_, ?_, ?_⟩
  · intro job member
    rw [← Table.find?_isSome_iff_countP]
    exact (disciplined.inv.jobs job member).reported
  · intro report member last run
    have later := (queue_obeys settings).run disciplined run
    exact completed_stays later.inv
      ((run_evolves disciplined run).reports report member)
  · intro claim result transcript finished answers
    have adopted : Adopted claim result config.store.queue :=
      disciplined.finished finished
    exact adopted.row transcript answers

theorem report_completes_job_executed :
    (∀ job ∈ executed.store.queue.jobs.rows, job.status = .completed ↔
      executed.store.queue.reports.rows.countP
        (fun report => decide (report.jobId = job.jobId)) = 1) ∧
    (∃ job, executed.store.queue.jobs.find? "" = some job ∧
      job.status = .completed) ∧
    executed.store.queue.reports.find? "" = some ⟨"", sampleTranscript⟩ := by
  obtain ⟨iff, stays, adopted⟩ := report_completes_job .default
    { db := sampleDatabase } rfl executed executed_reachable
  have answered := adopted ⟨"", "", 1⟩
    ⟨.job .completed, "", some sampleTranscript⟩ sampleTranscript
    (finished_mem 1 (by decide +kernel)) rfl
  exact ⟨iff, (stays _ (Table.mem_of_find? answered) executed (.refl _)).2,
    answered⟩

/-! ## Shape of the job rows -/

/-- Every job row has the columns of its status, and its version and its
attempts are the number of its committed claims. -/
theorem job_rows_wellFormed (settings : Settings) (initial : Store)
    (empty : initial.queue = {})
    (config : Config university (Except Exc Answer))
    (reachable : Reachable (queueSystem settings) anything initial config) :
    ∀ job ∈ config.store.queue.jobs.rows, RowShape job ∧
      job.jobVersion = job.attemptCount ∧
      job.attemptCount = (claimsOf config.store.queue job.jobId).length := by
  intro job member
  have ok := (queue_disciplined empty reachable).inv.jobs job member
  exact ⟨ok.shape, ok.same_count.symm, ok.attempts⟩

theorem executed_job :
    ∃ job, executed.store.queue.jobs.find? "" = some job :=
  Option.isSome_iff_exists.mp (by decide +kernel)

theorem job_rows_wellFormed_executed :
    ∃ job, executed.store.queue.jobs.find? "" = some job ∧ RowShape job ∧
      job.jobVersion = job.attemptCount ∧
      job.attemptCount = (claimsOf executed.store.queue job.jobId).length := by
  obtain ⟨job, found⟩ := executed_job
  exact ⟨job, found, job_rows_wellFormed .default { db := sampleDatabase } rfl
    executed executed_reachable job (Table.mem_of_find? found)⟩

example : (executed.store.queue.jobs.find? "").map
    (fun job => (job.status, job.attemptCount)) = some (.completed, 1) := by
  decide +kernel

/-! ## Fencing -/

/-- A write under a claim's lease: the claim is the latest of its job, which
is processing under it, and only that row is written.  A recorded failure was
decided on the attempt count that this row has. -/
structure WritesUnder (settings : Settings) (claim : ClaimedJob)
    (label : Label) (before after : Queue) (job : Job) : Prop where
  latest : latestClaim before claim.jobId = some claim
  row : before.jobs.find? claim.jobId = some job
  processing : job.status = .processing
  token : job.workerToken = some claim.workerToken
  version : job.jobVersion = claim.jobVersion
  others : ∀ jobId, jobId ≠ claim.jobId →
    after.jobs.find? jobId = before.jobs.find? jobId
  decided : ∀ error permanent,
    label = .queue (.recordFailure claim error permanent) →
      ∃ failed retryAt now,
        Decision settings permanent job.attemptCount failed retryAt now ∧
        after.jobs.find? claim.jobId =
          some (failureValues failed retryAt (errorMessage error) now job)

theorem latest_of_held {queue : Queue} (wellFormed : WellFormed queue)
    {claim : ClaimedJob} {job : Job} (member : job ∈ queue.jobs.rows)
    (holds : heldUnder claim job = true) :
    latestClaim queue claim.jobId = some claim := by
  obtain ⟨same, processing, token, version⟩ := heldUnder_iff.mp holds
  have ok := wellFormed.jobs job member
  obtain ⟨newest, latest, heldToken⟩ := ok.held processing
  obtain ⟨newestJob, newestVersion⟩ := wellFormed.numbered.latest latest
  have tokens : newest.workerToken = claim.workerToken :=
    Option.some.inj (heldToken.symm.trans token)
  have versions : newest.jobVersion = claim.jobVersion :=
    calc
      newest.jobVersion = (claimsOf queue job.jobId).length := newestVersion
      _ = job.jobVersion := ok.version.symm
      _ = claim.jobVersion := version
  have equal : newest = claim := by
    cases newest
    cases claim
    simp only at newestJob tokens versions same
    rw [newestJob, tokens, versions, same]
  rw [← same, latest, equal]

/-- An update under the fence either finds no row or writes the row of the
latest claim. -/
theorem fenced_update {queue : Queue} (wellFormed : WellFormed queue)
    (claim : ClaimedJob) (change : Job → Job)
    (same : ∀ job, (change job).jobId = job.jobId) :
    queue.jobs.updateWhere (heldUnder claim) change same = queue.jobs ∨
      ∃ job, queue.jobs.find? claim.jobId = some job ∧
        heldUnder claim job = true ∧
        latestClaim queue claim.jobId = some claim ∧
        (queue.jobs.updateWhere (heldUnder claim) change same).find?
          claim.jobId = some (change job) ∧
        ∀ jobId, jobId ≠ claim.jobId →
          (queue.jobs.updateWhere (heldUnder claim) change same).find? jobId =
            queue.jobs.find? jobId := by
  by_cases someHeld : ∃ job ∈ queue.jobs.rows, heldUnder claim job = true
  · obtain ⟨job, member, holds⟩ := someHeld
    have key : job.jobId = claim.jobId := (heldUnder_iff.mp holds).1
    have found : queue.jobs.find? claim.jobId = some job := by
      rw [← key]
      exact Table.find?_of_mem member
    refine .inr ⟨job, found, holds, latest_of_held wellFormed member holds,
      ?_, ?_⟩
    · rw [Table.find?_updateWhere, found]
      simp [holds]
    · intro jobId different
      rw [Table.find?_updateWhere]
      cases other : queue.jobs.find? jobId with
      | none => rfl
      | some row =>
          have rowKey := Table.key_of_find? other
          have outside : heldUnder claim row = false := by
            simp [heldUnder, rowKey, different]
          simp [outside]
  · refine .inl (Table.updateWhere_of_none same ?_)
    intro job member
    have notHeld := mt (fun holds => ⟨job, member, holds⟩) someHeld
    simpa using notHeld

/-- The labels of the statements by which a claim's holder writes. -/
def IsFenced (claim : ClaimedJob) (label : Label) : Prop :=
  label = .queue (.renewLease claim) ∨
    ∃ error permanent, label = .queue (.recordFailure claim error permanent)

theorem fenced_effect {settings : Settings} {claim : ClaimedJob}
    {label : Label} {choice : Choice} {before after : Queue}
    (wellFormed : WellFormed before) (fenced : IsFenced claim label)
    (effect : Effect settings before label choice after) :
    after.jobs = before.jobs ∨
      ∃ job, WritesUnder settings claim label before after job := by
  rcases fenced with rfl | ⟨error, permanent, rfl⟩
  · cases effect with
    | unchanged => exact .inl rfl
    | renewed choice claim leaseUntil updatedAt =>
        rcases fenced_update wellFormed claim (leaseValues leaseUntil updatedAt)
          (leaseValues_jobId leaseUntil updatedAt) with
          same | ⟨job, found, holds, latest, written, others⟩
        · exact .inl same
        · obtain ⟨_, processing, token, version⟩ := heldUnder_iff.mp holds
          exact .inr ⟨job, latest, found, processing, token, version, others,
            fun _ _ absurd => by cases absurd⟩
  · cases effect with
    | unchanged => exact .inl rfl
    | failed choice claim error permanent failed retryAt now decided =>
        rcases fenced_update wellFormed claim
          (failureValues failed retryAt (errorMessage error) now)
          (failureValues_jobId failed retryAt (errorMessage error) now) with
          same | ⟨job, found, holds, latest, written, others⟩
        · exact .inl same
        · obtain ⟨_, processing, token, version⟩ := heldUnder_iff.mp holds
          have decision := decided job (Table.mem_of_find? found) holds
          refine .inr ⟨job, latest, found, processing, token, version, others,
            ?_⟩
          intro otherError otherPermanent same
          cases same
          exact ⟨failed, retryAt, now, decision, written⟩

theorem unnamed_effect {settings : Settings} {label : Label} {choice : Choice}
    {before after : Queue} (unnamed : label = .internal ∨ label = .query)
    (effect : Effect settings before label choice after) : after = before := by
  rcases unnamed with rfl | rfl
  · cases effect
    rfl
  · cases effect
    rfl

theorem superseded_stays {before after : Queue} (wellFormed : WellFormed before)
    (laterWellFormed : WellFormed after) (evolves : Evolves before after)
    {claim : ClaimedJob} (member : claim ∈ before.claims)
    (superseded : latestClaim before claim.jobId ≠ some claim) :
    latestClaim after claim.jobId ≠ some claim := by
  intro latest
  have bound := wellFormed.numbered.bound member
  have notLast : claim.jobVersion ≠ (claimsOf before claim.jobId).length :=
    fun last => superseded (wellFormed.numbered.newest member last)
  have version := (laterWellFormed.numbered.latest latest).2
  have grows : (claimsOf before claim.jobId).length ≤
      (claimsOf after claim.jobId).length :=
    (evolves.claims.filter (isClaimOf claim.jobId)).length_le
  unfold claimsOf at notLast grows
  omega

/-- Only the latest claim of a job extends, fails or requeues it, and claims
of one job carry strictly increasing versions. -/
theorem only_latest_claim_writes (settings : Settings) (initial : Store)
    (empty : initial.queue = {})
    (config : Config university (Except Exc Answer))
    (reachable : Reachable (queueSystem settings) anything initial config) :
    (∀ thread label choice next claim, IsFenced claim label →
      Transition (queueSystem settings) config (.act thread label choice)
        next →
      next.store.queue.jobs = config.store.queue.jobs ∨
        ∃ job, WritesUnder settings claim label config.store.queue
          next.store.queue job) ∧
    (∀ thread label choice next, label = .internal ∨ label = .query →
      Transition (queueSystem settings) config (.act thread label choice)
        next →
      next.store.queue = config.store.queue) ∧
    (config.store.queue.claims.Pairwise fun later earlier =>
      later.jobId = earlier.jobId → earlier.jobVersion < later.jobVersion) ∧
    (∀ claim ∈ config.store.queue.claims,
      latestClaim config.store.queue claim.jobId ≠ some claim →
      ∀ last, Run (queueSystem settings) anything config last →
        latestClaim last.store.queue claim.jobId ≠ some claim) := by
  have disciplined := queue_disciplined empty reachable
  refine ⟨?_, ?_, disciplined.inv.numbered.increasing, ?_⟩
  · intro thread label choice next claim fenced transition
    exact fenced_effect disciplined.inv fenced
      (disciplined.guaranteed transition trivial).2
  · intro thread label choice next unnamed transition
    exact unnamed_effect unnamed (disciplined.guaranteed transition trivial).2
  · intro claim member superseded last run
    have later := (queue_obeys settings).run disciplined run
    exact superseded_stays disciplined.inv later.inv
      (run_evolves disciplined run) member superseded

/-- The worker has claimed and its heartbeat thread is about to renew. -/
def renewing : Config university (Except Exc Answer) :=
  exportAndExecute.played (queueSystem .default) accept
    (turns 0 3 ++ turns 1 7 ++ turns 2 4)

theorem renewing_reachable :
    Reachable (queueSystem .default) anything { db := sampleDatabase }
      renewing :=
  exportAndExecute_reachable.trans
    (Config.played_run _ accept anything (fun _ _ _ _ => trivial)
      (turns 0 3 ++ turns 1 7 ++ turns 2 4) exportAndExecute
      (by decide +kernel))

def renewed : Config university (Except Exc Answer) :=
  renewing.played (queueSystem .default) accept [⟨2, {}⟩]

theorem renewing_renews :
    Transition (queueSystem .default) renewing
      (.act 2 (.queue (.renewLease ⟨"", "", 1⟩)) {}) renewed :=
  renewing.played_transition _ accept ⟨2, {}⟩ (by decide +kernel)
    (by decide +kernel)

theorem only_latest_claim_writes_renewing :
    renewed.store.queue.jobs = renewing.store.queue.jobs ∨
      ∃ job, WritesUnder .default ⟨"", "", 1⟩
        (.queue (.renewLease ⟨"", "", 1⟩)) renewing.store.queue
        renewed.store.queue job :=
  (only_latest_claim_writes .default { db := sampleDatabase } rfl renewing
    renewing_reachable).1 2 _ {} renewed ⟨"", "", 1⟩ (.inl rfl)
    renewing_renews

/-! ## Attempts -/

/-- Attempts stay within the bound, and a queued job has one left. -/
def Bounded (settings : Settings) (queue : Queue) : Prop :=
  ∀ job ∈ queue.jobs.rows, job.attemptCount ≤ settings.jobMaxAttempts ∧
    (job.status = .queued → job.attemptCount < settings.jobMaxAttempts)

/-- The claim takes a job over from a worker whose lease ran out although the
job has used all its attempts. -/
def takesOverExhausted (settings : Settings) (label : Label) (choice : Choice)
    (store : Store) : Bool :=
  match label with
  | .queue (.claimNextJob now) =>
      match candidate now choice.lockedJobs store.queue.jobs with
      | some job =>
          decide (job.status = .processing) &&
            decide (settings.jobMaxAttempts ≤ job.attemptCount)
      | none => false
  | _ => false

def noExhaustedTakeover (settings : Settings) : Condition university :=
  fun label choice store =>
    takesOverExhausted settings label choice store = false

theorem candidate_bounded {settings : Settings} {store : Store} {now : Time}
    {choice : Choice} {job : Job} (bounded : Bounded settings store.queue)
    (admitted : noExhaustedTakeover settings (.queue (.claimNextJob now))
      choice store)
    (found : candidate now choice.lockedJobs store.queue.jobs = some job) :
    job.attemptCount < settings.jobMaxAttempts := by
  obtain ⟨member, eligible, _⟩ := candidate_some found
  rcases eligible_status eligible with queued | processing
  · exact (bounded job member).2 queued
  · simp only [noExhaustedTakeover, takesOverExhausted, found, processing,
      decide_true, Bool.true_and, decide_eq_false_iff_not, not_le] at admitted
    exact admitted

theorem bounded_update {settings : Settings} {queue : Queue}
    (bounded : Bounded settings queue) (condition : Job → Bool)
    (change : Job → Job) (same : ∀ job, (change job).jobId = job.jobId)
    (changed : ∀ job ∈ queue.jobs.rows, condition job = true →
      (change job).attemptCount ≤ settings.jobMaxAttempts ∧
        ((change job).status = .queued →
          (change job).attemptCount < settings.jobMaxAttempts)) :
    Bounded settings { queue with
      jobs := queue.jobs.updateWhere condition change same } :=
  Table.forall_updateWhere same bounded changed

theorem bounded_complete {settings : Settings} {queue : Queue}
    (bounded : Bounded settings queue) (now : Time) (condition : Job → Bool) :
    Bounded settings { queue with
      jobs := queue.jobs.updateWhere condition (completeValues now)
        (completeValues_jobId now) } :=
  bounded_update bounded condition _ _ fun job member _ =>
    ⟨(bounded job member).1, fun queued => by cases queued⟩

theorem bounded_effect {settings : Settings} {label : Label} {choice : Choice}
    {before after : Store} (bounded : Bounded settings before.queue)
    (admitted : noExhaustedTakeover settings label choice before)
    (effect : Effect settings before.queue label choice after.queue) :
    Bounded settings after.queue := by
  generalize after.queue = next at effect ⊢
  cases effect with
  | unchanged => exact bounded
  | exported choice ownerId targetId jobId record after records enqueued =>
      obtain ⟨fresh, rfl⟩ := enqueueJob_ok enqueued
      intro job member
      rcases (Table.mem_insert fresh).mp member with old | rfl
      · exact bounded job old
      · have positive := settings.attemptsBound
        simp only [newJob]
        omega
  | claimed choice now job workerToken found =>
      have left := candidate_bounded bounded admitted found
      refine Table.forall_updateWhere
        (claimValues_jobId settings now workerToken) bounded ?_
      intro row member applies
      have isJob : row = job := before.queue.jobs.eq_of_key_eq member
        (candidate_some found).1 (by simpa using applies)
      subst isJob
      exact ⟨left, fun queued => by cases queued⟩
  | renewed choice claim leaseUntil updatedAt =>
      exact bounded_update bounded _ _ _ fun job member _ => bounded job member
  | failed choice claim error permanent failed retryAt now decided =>
      refine bounded_update bounded _ _ _ fun job member holds => ?_
      refine ⟨(bounded job member).1, fun queued => ?_⟩
      have decision := (decided job member holds).failed_iff
      cases failed with
      | true => cases queued
      | false =>
          simp only [Bool.false_eq, Bool.or_eq_false_iff,
            decide_eq_false_iff_not, not_le] at decision
          exact decision.2
  | persisted choice report now after inserted =>
      obtain ⟨fresh, _, rfl⟩ := persistReport_ok inserted
      exact bounded_complete bounded now _
  | completed choice jobId now reported =>
      exact bounded_complete bounded now _
  | completedAll choice now => exact bounded_complete bounded now _

/-- As long as no claim takes over an exhausted job from a dead worker, no job
has more attempts than the bound and none that has used them is claimed. -/
theorem attempts_bounded (settings : Settings) (initial : Store)
    (empty : initial.queue = {})
    (config : Config university (Except Exc Answer))
    (reachable : Reachable (queueSystem settings)
      (noExhaustedTakeover settings) initial config) :
    (∀ job ∈ config.store.queue.jobs.rows,
      job.attemptCount ≤ settings.jobMaxAttempts) ∧
    (∀ now choice job,
      noExhaustedTakeover settings (.queue (.claimNextJob now)) choice
        config.store →
      candidate now choice.lockedJobs config.store.queue.jobs = some job →
        job.attemptCount < settings.jobMaxAttempts) := by
  have wellFormed : WellFormed initial.queue := by
    rw [empty]
    exact wellFormed_empty
  have start : Disciplined (queueDiscipline settings) finishOk
      ⟨initial, []⟩ := queue_disciplined empty (.refl _)
  have bounded : Bounded settings config.store.queue := by
    refine (queue_obeys settings).preserves (fun _ _ _ _ => trivial)
      (fun store => Bounded settings store.queue) ?_ start reachable ?_
    · intro me label choice before after _ effect admitted before_
      exact bounded_effect before_ admitted effect
    · intro job member
      rw [empty] at member
      cases member
  exact ⟨fun job member => (bounded job member).1,
    fun now choice job admitted found =>
      candidate_bounded bounded admitted found⟩

theorem attempts_bounded_executed :
    ∃ job, executed.store.queue.jobs.find? "" = some job ∧
      job.attemptCount ≤ Settings.default.jobMaxAttempts := by
  obtain ⟨job, found⟩ := executed_job
  have bounded := (attempts_bounded .default { db := sampleDatabase } rfl
    executed (exportAndExecute_reachable.trans
      (Config.played_run _
        (fun label choice store =>
          !takesOverExhausted .default label choice store)
        (noExhaustedTakeover .default)
        (fun _ _ _ checked => by simpa [noExhaustedTakeover] using checked)
        (turns 0 3 ++ turns 1 17) exportAndExecute (by decide +kernel)))).1
  exact ⟨job, found, bounded job (Table.mem_of_find? found)⟩

def oneAttempt : Settings :=
  { Settings.default with jobMaxAttempts := 1, attemptsBound := le_refl 1 }

def exportAndCrash : Config university (Except Exc Answer) where
  store := sampleStore
  threads := [settle (exportTranscriptAsync 1 sampleAdmin),
    workerTurn oneAttempt, workerTurn oneAttempt]

theorem exportAndCrash_reachable :
    Reachable (queueSystem oneAttempt) anything sampleStore exportAndCrash := by
  refine arrivals_run _ _ _ exportAndCrash.threads ?_
  intro program member
  simp only [exportAndCrash, List.mem_cons, List.not_mem_nil,
    or_false] at member
  rcases member with rfl | rfl | rfl
  · exact .exportTranscriptAsync 1 sampleAdmin
  · exact .runOnce
  · exact .runOnce

/-- The first worker dies after its claim; the second comes after the lease
has run out. -/
def takenOver : Config university (Except Exc Answer) :=
  exportAndCrash.played (queueSystem oneAttempt) accept
    (turns 0 3 ++ turns 1 3 ++ List.replicate 3 ⟨2, { now := 1000 }⟩)

theorem takenOver_reachable :
    Reachable (queueSystem oneAttempt) anything { db := sampleDatabase }
      takenOver :=
  exportAndCrash_reachable.trans
    (Config.played_run _ accept anything (fun _ _ _ _ => trivial)
      (turns 0 3 ++ turns 1 3 ++ List.replicate 3 ⟨2, { now := 1000 }⟩)
      exportAndCrash (by decide +kernel))

/-- A job whose only attempt ended in an abandoned lease is claimed again. -/
theorem abandoned_lease_exceeds_bound :
    ¬ ∀ (settings : Settings) (initial : Store), initial.queue = {} →
      ∀ config, Reachable (queueSystem settings) anything initial config →
        ∀ job ∈ config.store.queue.jobs.rows,
          job.attemptCount ≤ settings.jobMaxAttempts := by
  intro bounded
  have every := bounded oneAttempt { db := sampleDatabase } rfl takenOver
    takenOver_reachable
  have exceeds : ¬ ∀ job ∈ takenOver.store.queue.jobs.rows,
      job.attemptCount ≤ oneAttempt.jobMaxAttempts := by decide +kernel
  exact exceeds every

end SystemUni.Workers.Guarantees
