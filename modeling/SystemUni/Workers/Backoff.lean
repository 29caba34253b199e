import SystemUni.Workers.Guarantees

/-!
# Retries back off

A transient failure puts its job back with a time before which no claim takes
it.  The next failure of the job follows a later claim, so its attempt count is
greater, and doubling outweighs any jitter.
-/

set_option autoImplicit false

namespace SystemUni.Workers.Backoff

open Interleaving Relational
open SystemUni.Runtime.Errors
open SystemUni.Runtime.Statements
open SystemUni.Models.Jobs
open SystemUni.Models.Schema
open SystemUni.Routers.Reports
open SystemUni.Workers.Tasks
open SystemUni.Workers.Queue
open SystemUni.Workers.Execution
open SystemUni.Workers.Service
open SystemUni.Workers.Guarantees

/-! ## One failure -/

/-- The delay of a failure at this attempt, without jitter. -/
def baseDelay (settings : Settings) (attemptCount : Nat) : ℚ :=
  settings.jobRetryBaseSeconds * 2 ^ (attemptCount - 1)

theorem baseDelay_pos (settings : Settings) (attemptCount : Nat) :
    0 < baseDelay settings attemptCount := by
  have base : (1 : ℚ) ≤ settings.jobRetryBaseSeconds := by
    exact_mod_cast settings.retryBaseBound
  unfold baseDelay
  positivity

theorem baseDelay_double (settings : Settings) {attempt later : Nat}
    (first : 1 ≤ attempt) (order : attempt < later) :
    2 * baseDelay settings attempt ≤ baseDelay settings later := by
  have powers : (2 : ℚ) ^ (attempt - 1 + 1) ≤ 2 ^ (later - 1) :=
    pow_le_pow_right₀ (by norm_num) (by omega)
  have base : (0 : ℚ) ≤ settings.jobRetryBaseSeconds := Nat.cast_nonneg _
  calc
    2 * baseDelay settings attempt =
        settings.jobRetryBaseSeconds * 2 ^ (attempt - 1 + 1) := by
      unfold baseDelay
      ring
    _ ≤ baseDelay settings later := mul_le_mul_of_nonneg_left powers base

theorem delay_eq (settings : Settings) {attemptCount : Nat}
    (first : 1 ≤ attemptCount) :
    (settings.jobRetryBaseSeconds : ℚ) * 2 ^ ((attemptCount : ℤ) - 1) =
      baseDelay settings attemptCount := by
  unfold baseDelay
  rw [← zpow_natCast, Nat.cast_sub first, Nat.cast_one]

theorem retryTime_ok {settings : Settings} {attemptCount : Nat}
    {jitter : Jitter} {now retryAt : Time}
    (computed : retryTime settings attemptCount jitter now = .ok retryAt) :
    retryAt = now +
      (settings.jobRetryBaseSeconds * 2 ^ ((attemptCount : ℤ) - 1) +
        jitter.fraction *
          (settings.jobRetryBaseSeconds * 2 ^ ((attemptCount : ℤ) - 1) / 2)) := by
  unfold retryTime at computed
  simp only at computed
  split at computed
  · cases computed
  split at computed
  · cases computed
  split at computed
  · cases computed
  · exact (Except.ok.inj computed).symm

theorem retryTime_bounds {settings : Settings} {attemptCount : Nat}
    (first : 1 ≤ attemptCount) {jitter : Jitter} {now retryAt : Time}
    (computed : retryTime settings attemptCount jitter now = .ok retryAt) :
    baseDelay settings attemptCount ≤ retryAt - now ∧
      retryAt - now ≤ 3 / 2 * baseDelay settings attemptCount := by
  have positive := baseDelay_pos settings attemptCount
  have nonnegative := mul_nonneg jitter.nonnegative positive.le
  have atMost := mul_le_mul_of_nonneg_right jitter.atMostOne positive.le
  have isLater := retryTime_ok computed
  rw [delay_eq settings first] at isLater
  constructor
  · linarith
  · linarith

/-- A step of the run that records a transient failure: the job was processing
at this attempt and is queued again. -/
structure TransientFailure (settings : Settings)
    (config next : Config university (Except Exc Answer)) (jobId : String)
    (attemptCount : Nat) (failedAt retryAt : Time) : Prop where
  step : ∃ thread claim error choice, claim.jobId = jobId ∧
    Transition (queueSystem settings) config
      (.act thread (.queue (.recordFailure claim error false)) choice) next
  before : ∃ job, config.store.queue.jobs.find? jobId = some job ∧
    job.status = .processing ∧ job.attemptCount = attemptCount
  after : ∃ row, next.store.queue.jobs.find? jobId = some row ∧
    row.status = .queued ∧ row.retryAt = some retryAt ∧
    row.updatedAt = failedAt

/-- A step of the run by which `claim_next_job`, at this time, takes the
job. -/
structure Takes (settings : Settings)
    (config next : Config university (Except Exc Answer)) (jobId : String)
    (now : Time) : Prop where
  step : ∃ thread choice, Transition (queueSystem settings) config
    (.act thread (.queue (.claimNextJob now)) choice) next
  claimed : ∃ claim, claim.jobId = jobId ∧
    next.store.queue.claims = claim :: config.store.queue.claims

/-! ## Waiting for the retry -/

/-- Queued until this time, unless a report has completed the job. -/
def Waiting (retryAt : Time) (row : Job) : Prop :=
  (row.status = .queued ∧ row.retryAt = some retryAt) ∨
    row.status = .completed

theorem Waiting.not_held {retryAt : Time} {row : Job}
    (waiting : Waiting retryAt row) (claim : ClaimedJob) :
    heldUnder claim row = false := by
  by_contra holds
  have processing := (heldUnder_iff.mp (by simpa using holds)).2.1
  rcases waiting with ⟨queued, _⟩ | completed
  · rw [queued] at processing
    cases processing
  · rw [completed] at processing
    cases processing

/-- As long as the job has not been claimed again, it waits. -/
structure Waits (retryAt : Time) (claims : List ClaimedJob) (jobId : String)
    (queue : Queue) : Prop where
  grown : claims <:+ claimsOf queue jobId
  row : claimsOf queue jobId = claims →
    ∃ row, queue.jobs.find? jobId = some row ∧ Waiting retryAt row

section Steps

variable {retryAt : Time} {claims : List ClaimedJob} {jobId : String}
  {queue : Queue}

theorem Waits.update (waits : Waits retryAt claims jobId queue)
    {condition : Job → Bool} {change : Job → Job}
    (same : ∀ job, (change job).jobId = job.jobId)
    (rows : ∀ row, queue.jobs.find? jobId = some row → Waiting retryAt row →
      condition row = true → Waiting retryAt (change row)) :
    Waits retryAt claims jobId { queue with
      jobs := queue.jobs.updateWhere condition change same } := by
  refine ⟨waits.grown, ?_⟩
  intro unclaimed
  obtain ⟨row, found, waiting⟩ := waits.row unclaimed
  refine ⟨if condition row then change row else row, ?_, ?_⟩
  · rw [Table.find?_updateWhere, found]
    rfl
  · split
    · rename_i applies
      exact rows row found waiting applies
    · exact waiting

theorem Waits.fenced (waits : Waits retryAt claims jobId queue)
    (claim : ClaimedJob) {change : Job → Job}
    (same : ∀ job, (change job).jobId = job.jobId) :
    Waits retryAt claims jobId { queue with
      jobs := queue.jobs.updateWhere (heldUnder claim) change same } := by
  refine waits.update same ?_
  intro row _ waiting applies
  rw [waiting.not_held claim] at applies
  cases applies

theorem Waits.claimJob (waits : Waits retryAt claims jobId queue)
    (settings : Settings) (now : Time) (claim : ClaimedJob) :
    Waits retryAt claims jobId (claimJob settings now claim queue) := by
  have claimed := claimsOf_claimJob settings now claim queue jobId
  split at claimed
  · refine ⟨claimed ▸ waits.grown.trans (List.suffix_cons _ _), ?_⟩
    intro unclaimed
    have longer := waits.grown.length_le
    rw [← unclaimed, claimed, List.length_cons] at longer
    omega
  · rename_i different
    refine ⟨claimed ▸ waits.grown, ?_⟩
    intro unclaimed
    obtain ⟨row, found, waiting⟩ := waits.row (claimed.symm.trans unclaimed)
    refine ⟨row, ?_, waiting⟩
    rw [← found]
    exact Table.find?_updateWhere_other _ _ (claimValues_jobId _ _ _)
      (Ne.symm different)

theorem Waits.complete (waits : Waits retryAt claims jobId queue)
    (condition : Job → Bool) (now : Time) :
    Waits retryAt claims jobId { queue with
      jobs := queue.jobs.updateWhere condition (completeValues now)
        (completeValues_jobId now) } :=
  waits.update _ fun _ _ _ _ => .inr rfl

theorem Waits.reports (waits : Waits retryAt claims jobId queue)
    (reports : Table Report.jobId) :
    Waits retryAt claims jobId { queue with reports := reports } :=
  ⟨waits.grown, waits.row⟩

theorem Waits.enqueueJob (waits : Waits retryAt claims jobId queue)
    {job : Job} {record : Export} {after : Queue}
    (enqueued : enqueueJob job record queue = .ok after) :
    Waits retryAt claims jobId after := by
  obtain ⟨fresh, rfl⟩ := enqueueJob_ok enqueued
  refine ⟨waits.grown, ?_⟩
  intro unclaimed
  obtain ⟨row, found, waiting⟩ := waits.row unclaimed
  exact ⟨row, Table.find?_insert_old fresh found, waiting⟩

theorem Waits.effect (waits : Waits retryAt claims jobId queue)
    {settings : Settings} {label : Label} {choice : Choice} {after : Queue}
    (effect : Effect settings queue label choice after) :
    Waits retryAt claims jobId after := by
  cases effect with
  | unchanged => exact waits
  | exported choice ownerId targetId jobId record after records enqueued =>
      exact waits.enqueueJob enqueued
  | claimed choice now job workerToken found => exact waits.claimJob settings now _
  | renewed choice claim leaseUntil updatedAt => exact waits.fenced claim _
  | failed choice claim error permanent failed retryAt now decided =>
      exact waits.fenced claim _
  | persisted choice report now after inserted =>
      obtain ⟨fresh, _, rfl⟩ := persistReport_ok inserted
      exact (waits.reports _).complete _ now
  | completed choice jobId now reported => exact waits.complete _ now
  | completedAll choice now => exact waits.complete _ now

end Steps

/-! ## Every run -/

section Runs

variable {settings : Settings}
  {config next : Config university (Except Exc Answer)} {jobId : String}
  {attemptCount : Nat} {failedAt retryAt : Time}

/-- What a recorded failure leaves was computed from the attempt it read. -/
theorem TransientFailure.computed
    (disciplined : Disciplined (queueDiscipline settings) finishOk config)
    (failure : TransientFailure settings config next jobId attemptCount
      failedAt retryAt) :
    1 ≤ attemptCount ∧ ∃ jitter,
      retryTime settings attemptCount jitter failedAt = .ok retryAt := by
  obtain ⟨thread, claim, error, choice, rfl, transition⟩ := failure.step
  obtain ⟨job, found, processing, attempt⟩ := failure.before
  obtain ⟨row, rowFound, queued, retry, updated⟩ := failure.after
  have wellFormed : WellFormed config.store.queue := disciplined.inv
  have shape := (wellFormed.jobs job (Table.mem_of_find? found)).shape
  obtain ⟨_, _, _, _, first⟩ := shape.processing processing
  rw [attempt] at first
  refine ⟨first, ?_⟩
  rcases fenced_effect wellFormed (.inr ⟨error, false, rfl⟩)
    (disciplined.guaranteed transition trivial).2 with same | ⟨held, writes⟩
  · rw [same, found] at rowFound
    cases rowFound
    rw [processing] at queued
    cases queued
  · have isJob := writes.row
    rw [found] at isJob
    cases isJob
    obtain ⟨failed, written, now, decision, recorded⟩ :=
      writes.decided error false rfl
    rw [recorded] at rowFound
    cases rowFound
    have isRetried : failed = false := by
      cases failed
      · rfl
      · cases queued
    obtain ⟨jitter, time, computed, isTime⟩ := decision.retry isRetried
    have sameTime : time = retryAt :=
      Option.some.inj (isTime.symm.trans retry)
    have sameNow : now = failedAt := updated
    rw [attempt, sameTime, sameNow] at computed
    exact ⟨jitter, computed⟩

theorem TransientFailure.waits
    (failure : TransientFailure settings config next jobId attemptCount
      failedAt retryAt) :
    Waits retryAt (claimsOf next.store.queue jobId) jobId next.store.queue := by
  obtain ⟨row, found, queued, retry, _⟩ := failure.after
  exact ⟨List.suffix_refl _, fun _ => ⟨row, found, .inl ⟨queued, retry⟩⟩⟩

/-- A failure is recorded under the claims there are. -/
theorem TransientFailure.claims
    (disciplined : Disciplined (queueDiscipline settings) finishOk config)
    (failure : TransientFailure settings config next jobId attemptCount
      failedAt retryAt) :
    (claimsOf config.store.queue jobId).length = attemptCount ∧
      claimsOf next.store.queue jobId = claimsOf config.store.queue jobId := by
  obtain ⟨job, found, _, attempt⟩ := failure.before
  obtain ⟨thread, claim, error, choice, _, transition⟩ := failure.step
  have wellFormed : WellFormed config.store.queue := disciplined.inv
  have counted := (wellFormed.jobs job (Table.mem_of_find? found)).attempts
  rw [Table.key_of_find? found] at counted
  refine ⟨counted.symm.trans attempt, ?_⟩
  have effect : Effect settings config.store.queue _ choice
      next.store.queue := (disciplined.guaranteed transition trivial).2
  generalize next.store.queue = after at effect ⊢
  cases effect with
  | unchanged => rfl
  | failed => rfl

theorem disciplined_next
    (disciplined : Disciplined (queueDiscipline settings) finishOk config)
    (failure : TransientFailure settings config next jobId attemptCount
      failedAt retryAt) :
    Disciplined (queueDiscipline settings) finishOk next := by
  obtain ⟨_, _, _, _, _, transition⟩ := failure.step
  exact (queue_obeys settings).run disciplined
    (.step (.refl config) transition trivial)

theorem waits_run
    (disciplined : Disciplined (queueDiscipline settings) finishOk config)
    {claims : List ClaimedJob}
    (waits : Waits retryAt claims jobId config.store.queue)
    (run : Run (queueSystem settings) anything config next) :
    Waits retryAt claims jobId next.store.queue :=
  (queue_obeys settings).preserves (fun _ _ _ _ => trivial)
    (fun store => Waits retryAt claims jobId store.queue)
    (fun _ _ _ _ _ _ effect _ before => before.effect effect) disciplined run
    waits

/-- No claim takes a job that waits before its retry. -/
theorem Takes.after_retry
    (disciplined : Disciplined (queueDiscipline settings) finishOk config)
    {now : Time} (takes : Takes settings config next jobId now)
    (waits : Waits retryAt (claimsOf config.store.queue jobId) jobId
      config.store.queue) : retryAt ≤ now := by
  obtain ⟨thread, choice, transition⟩ := takes.step
  obtain ⟨claim, isJob, claims⟩ := takes.claimed
  obtain ⟨row, found, waiting⟩ := waits.row rfl
  have effect : Effect settings config.store.queue _ choice
      next.store.queue := (disciplined.guaranteed transition trivial).2
  generalize next.store.queue = after at effect claims
  cases effect with
  | unchanged => simp at claims
  | claimed choice now job workerToken candidates =>
      obtain ⟨isClaim, _⟩ := List.cons.inj claims
      have isRow : job.jobId = jobId := by rw [← isJob, ← isClaim]
      obtain ⟨member, eligible, _⟩ := candidate_some candidates
      have here := Table.find?_of_mem member
      rw [isRow, found] at here
      cases here
      rcases waiting with ⟨queued, retry⟩ | completed
      · rcases eligible with isReady | isAbandoned
        · simpa [ready, queued, retry] using isReady
        · simp [abandoned, queued] at isAbandoned
      · rcases eligible_status eligible with status | status
        · rw [completed] at status
          cases status
        · rw [completed] at status
          cases status

end Runs

/-- A transient failure at attempt `n` puts the retry between one and one and a
half times `b * 2 ^ (n - 1)` after the failure, the next claim of the job comes
no earlier, and each later failure of the job waits strictly longer. -/
theorem backoff_backs_off (settings : Settings) (initial : Store)
    (wellFormed : WellFormed initial.queue)
    (config next : Config university (Except Exc Answer))
    (reachable : Reachable (queueSystem settings) anything initial config)
    (jobId : String) (attemptCount : Nat) (failedAt retryAt : Time)
    (failure : TransientFailure settings config next jobId attemptCount
      failedAt retryAt) :
    (1 ≤ attemptCount ∧
      settings.jobRetryBaseSeconds * 2 ^ (attemptCount - 1) ≤
        retryAt - failedAt ∧
      retryAt - failedAt ≤
        3 / 2 * (settings.jobRetryBaseSeconds * 2 ^ (attemptCount - 1))) ∧
    ∀ middle, Run (queueSystem settings) anything next middle →
      (claimsOf middle.store.queue jobId = claimsOf next.store.queue jobId →
        ∀ after now, Takes settings middle after jobId now → retryAt ≤ now) ∧
      ∀ after laterCount laterFailedAt laterRetryAt,
        TransientFailure settings middle after jobId laterCount laterFailedAt
          laterRetryAt →
        retryAt - failedAt < laterRetryAt - laterFailedAt := by
  have disciplined := (queue_obeys settings).sound wellFormed reachable
  obtain ⟨first, jitter, computed⟩ := failure.computed disciplined
  have bounds := retryTime_bounds first computed
  refine ⟨⟨first, bounds⟩, ?_⟩
  intro middle run
  have nextDisciplined := disciplined_next disciplined failure
  have middleDisciplined := (queue_obeys settings).run nextDisciplined run
  have waits := waits_run nextDisciplined failure.waits run
  refine ⟨?_, ?_⟩
  · intro unclaimed after now takes
    rw [← unclaimed] at waits
    exact takes.after_retry middleDisciplined waits
  · intro after laterCount laterFailedAt laterRetryAt laterFailure
    obtain ⟨laterFirst, laterJitter, laterComputed⟩ :=
      laterFailure.computed middleDisciplined
    have laterBounds := retryTime_bounds laterFirst laterComputed
    have order : attemptCount < laterCount := by
      obtain ⟨count, same⟩ := failure.claims disciplined
      obtain ⟨laterCounted, _⟩ := laterFailure.claims middleDisciplined
      have grown := waits.grown.length_le
      rw [same, count, laterCounted] at grown
      refine lt_of_le_of_ne grown ?_
      intro equal
      -- Then nothing has claimed the job since, and it cannot be processing.
      have unclaimed := waits.grown.eq_of_length
        (by rw [same, count, laterCounted, equal])
      obtain ⟨row, found, waiting⟩ := waits.row unclaimed.symm
      obtain ⟨job, isJob, processing, _⟩ := laterFailure.before
      rw [found] at isJob
      cases isJob
      rcases waiting with ⟨queued, _⟩ | completed
      · rw [queued] at processing
        cases processing
      · rw [completed] at processing
        cases processing
    have doubled := baseDelay_double settings first order
    have positive := baseDelay_pos settings attemptCount
    linarith [bounds.2, laterBounds.1]

/-- A call to the database fails. -/
def unanswered : Choice := { call := .failed .operationalError "" }

/-- The worker has claimed, its next read fails, and it is about to record the
failure. -/
def failing : Config university (Except Exc Answer) :=
  exportAndExecute.played (queueSystem .default) accept
    (turns 0 3 ++ turns 1 3 ++ [⟨1, unanswered⟩] ++ turns 1 4)

theorem failing_reachable :
    Reachable (queueSystem .default) anything { db := sampleDatabase }
      failing :=
  exportAndExecute_reachable.trans
    (Config.played_run _ accept anything (fun _ _ _ _ => trivial)
      (turns 0 3 ++ turns 1 3 ++ [⟨1, unanswered⟩] ++ turns 1 4)
      exportAndExecute (by decide +kernel))

def requeued : Config university (Except Exc Answer) :=
  failing.played (queueSystem .default) accept [⟨1, {}⟩]

theorem failing_records :
    Transition (queueSystem .default) failing
      (.act 1 (.queue (.recordFailure ⟨"", "", 1⟩
        (.sql .operationalError "") false)) {}) requeued :=
  failing.played_transition (queueSystem .default) accept ⟨1, {}⟩
    (by decide +kernel) (by decide +kernel)

theorem failing_fails :
    TransientFailure .default failing requeued "" 1 0 5 where
  step := ⟨1, ⟨"", "", 1⟩, .sql .operationalError "", {}, rfl,
    failing_records⟩
  before := by
    have row : (failing.store.queue.jobs.find? "").map
        (fun job => (job.status, job.attemptCount)) =
          some (.processing, 1) := by decide +kernel
    obtain ⟨job, found, columns⟩ := Option.map_eq_some_iff.mp row
    exact ⟨job, found, (Prod.ext_iff.mp columns).1,
      (Prod.ext_iff.mp columns).2⟩
  after := by
    have row : (requeued.store.queue.jobs.find? "").map
        (fun job => (job.status, job.retryAt, job.updatedAt)) =
          some (.queued, some 5, 0) := by decide +kernel
    obtain ⟨job, found, columns⟩ := Option.map_eq_some_iff.mp row
    obtain ⟨queued, retry⟩ := Prod.ext_iff.mp columns
    exact ⟨job, found, queued, (Prod.ext_iff.mp retry).1,
      (Prod.ext_iff.mp retry).2⟩

/-- The retry that a worker waits for lies five seconds ahead. -/
theorem backoff_backs_off_failing :
    (1 ≤ 1 ∧ (5 : ℚ) * 2 ^ 0 ≤ 5 - 0 ∧ (5 - 0 : ℚ) ≤ 3 / 2 * (5 * 2 ^ 0)) ∧
    ∀ middle, Run (queueSystem .default) anything requeued middle →
      (claimsOf middle.store.queue "" = claimsOf requeued.store.queue "" →
        ∀ after now, Takes .default middle after "" now → 5 ≤ now) ∧
      ∀ after laterCount laterFailedAt laterRetryAt,
        TransientFailure .default middle after "" laterCount laterFailedAt
          laterRetryAt →
        5 - 0 < laterRetryAt - laterFailedAt :=
  backoff_backs_off .default { db := sampleDatabase } wellFormed_empty failing
    requeued failing_reachable "" 1 0 5 failing_fails

end SystemUni.Workers.Backoff
