import SystemUni.Workers.Backoff
import SystemUni.Workers.Leases

/-!
# Retries that cannot be represented

The delay of a retry doubles with each attempt and nothing bounds it.  Recording
a failure works exactly as long as the longest delay the jitter may draw fits a
`timedelta` and ends before the last `datetime`.
-/

set_option autoImplicit false

namespace SystemUni.Workers.Overflow

open Interleaving Relational
open SystemUni.Runtime.Errors
open SystemUni.Runtime.Statements
open SystemUni.Runtime.Rules
open SystemUni.Models.Jobs
open SystemUni.Routers.Reports
open SystemUni.Workers.Tasks
open SystemUni.Workers.Queue
open SystemUni.Workers.Leases
open SystemUni.Workers.Backoff

/-! ## The longest delay -/

/-- The longest delay at this attempt can be represented, and so can the time
at which it ends. -/
def Representable (settings : Settings) (attemptCount : Nat) (now : Time) :
    Prop :=
  3 / 2 * baseDelay settings attemptCount < timedeltaOverflow ∧
    now + 3 / 2 * baseDelay settings attemptCount < datetimeOverflow

theorem Jitter.full_nonnegative : (0 : ℚ) ≤ 1 := zero_le_one

def Jitter.full : Jitter := ⟨1, full_nonnegative, le_refl 1⟩

section RetryTime

variable {settings : Settings} {attemptCount : Nat} {now : Time}

theorem timedelta_below_float : timedeltaOverflow < floatOverflow := by
  have least : (1 : ℚ) ≤ 2 ^ 970 := one_le_pow₀ (by norm_num)
  have power : (2 : ℚ) ^ 1024 = 2 ^ 970 * 2 ^ 54 := by rw [← pow_add]
  unfold timedeltaOverflow floatOverflow
  rw [power]
  generalize (2 : ℚ) ^ 970 = scale at least ⊢
  linarith

theorem retryTime_eq (first : 1 ≤ attemptCount) (jitter : Jitter) :
    retryTime settings attemptCount jitter now =
      let jittered := baseDelay settings attemptCount +
        jitter.fraction * (baseDelay settings attemptCount / 2)
      if floatOverflow ≤ baseDelay settings attemptCount ∨
          floatOverflow ≤ jittered then .error .overflowError
      else if timedeltaOverflow ≤ jittered then .error .overflowError
      else if datetimeOverflow ≤ now + jittered then .error .overflowError
      else .ok (now + jittered) := by
  simp only [retryTime, delay_eq settings first]

theorem retryTime_error {jitter : Jitter} {exc : Exc}
    (fails : retryTime settings attemptCount jitter now = .error exc) :
    exc = .overflowError := by
  unfold retryTime at fails
  simp only at fails
  split at fails
  · cases fails
    rfl
  split at fails
  · cases fails
    rfl
  split at fails
  · cases fails
    rfl
  · cases fails

theorem retryTime_representable (first : 1 ≤ attemptCount)
    (fits : Representable settings attemptCount now) (jitter : Jitter) :
    ∃ retryAt, retryTime settings attemptCount jitter now = .ok retryAt := by
  have positive := baseDelay_pos settings attemptCount
  have atMost := mul_le_mul_of_nonneg_right jitter.atMostOne positive.le
  have least := mul_nonneg jitter.nonnegative positive.le
  have double := timedelta_below_float
  obtain ⟨delta, date⟩ := fits
  rw [retryTime_eq first]
  simp only
  rw [if_neg, if_neg, if_neg]
  · exact ⟨_, rfl⟩
  · linarith
  · linarith
  · rintro (overflow | overflow)
    · linarith
    · linarith

theorem retryTime_full (first : 1 ≤ attemptCount)
    (exceeds : ¬ Representable settings attemptCount now) :
    retryTime settings attemptCount Jitter.full now =
      .error .overflowError := by
  have longest : baseDelay settings attemptCount +
      Jitter.full.fraction * (baseDelay settings attemptCount / 2) =
        3 / 2 * baseDelay settings attemptCount := by
    unfold Jitter.full
    ring
  rw [retryTime_eq first]
  simp only [longest]
  split
  · rfl
  split
  · rfl
  split
  · rfl
  · rename_i delta date
    exact absurd ⟨not_le.mp delta, not_le.mp date⟩ exceeds

end RetryTime

/-! ## Recording a failure -/

section Recording

variable {settings : Settings} {claim : ClaimedJob} {error : Exc}
  {now : Time} {me : Nat} {store : Store} {job : Job}

/-- With nobody else writing, the failure is recorded if the retry can be
computed, and otherwise the job is left as it was. -/
theorem finishes_recordFailure {allowed : Choice → Prop} [Answered allowed]
    (atClock : ∀ choice, allowed choice → choice.now = now)
    (found : store.queue.jobs.find? claim.jobId = some job)
    (holds : heldUnder claim job = true)
    (more : job.attemptCount < settings.jobMaxAttempts) :
    Finishes allowed me (recordFailure settings claim error false)
      (fun status later => status = .job .queued ∧
        (∃ row, later.queue.jobs.find? claim.jobId = some row ∧
          row.status = .queued) ∧
        ∃ choice, allowed choice ∧ ∃ retryAt,
          retryTime settings job.attemptCount choice.jitter now = .ok retryAt)
      (fun exc later => exc = .overflowError ∧ later = store ∧
        ∃ choice, allowed choice ∧
          retryTime settings job.attemptCount choice.jitter now =
            .error .overflowError) store := by
  obtain ⟨_, processing, token, version⟩ := heldUnder_iff.mp holds
  have owned : ownsJob job claim = true := by simp [ownsJob, token, version]
  have retries : (false ||
      decide (settings.jobMaxAttempts ≤ job.attemptCount)) = false := by
    simpa using more
  refine finishes_bind (finishes_query ?_)
  rw [found]
  simp only [processing, ne_eq, not_true_eq_false, if_false, owned,
    Bool.not_true, Bool.false_eq_true, retries]
  refine finishes_bind (finishes_command fun clock atNow => ?_)
  refine finishes_bind (finishes_bind (finishes_command fun draw drew => ?_))
  simp only
  rw [atClock clock atNow]
  cases computed : retryTime settings job.attemptCount draw.jitter now with
  | error exc =>
      have overflow := retryTime_error computed
      subst overflow
      exact finishes_throw _ ⟨rfl, rfl, draw, drew, computed⟩
  | ok retryAt =>
      refine finishes_pure _ (finishes_bind (finishes_transaction ?_ ?_))
      · intro choice applied next _ body
        cases body
        have isHeld : store.queue.jobs.rows.any (heldUnder claim) = true :=
          List.any_eq_true.mpr ⟨job, Table.mem_of_find? found, holds⟩
        simp only [isHeld, Bool.not_true, Bool.false_eq_true, if_false]
        refine finishes_pure _ ⟨rfl, ?_, draw, drew, retryAt, computed⟩
        refine ⟨failureValues false (some retryAt) (errorMessage error) now
          job, ?_, rfl⟩
        simp [failJob, Table.find?_updateWhere, found, holds]
      · intro choice exc _ body
        cases body

/-- Recording a transient failure at this time ends, and every time without an
arithmetic error and with the job queued again. -/
def RecordsFailure (settings : Settings) (claim : ClaimedJob) (error : Exc)
    (now : Time) (me : Nat) (store : Store) : Prop :=
  (∃ answer last, Evaluates (Condition.allowing (AtClock now)) me
    (recordFailure settings claim error false).run store answer last) ∧
  ∀ answer last, Evaluates (Condition.allowing (AtClock now)) me
    (recordFailure settings claim error false).run store answer last →
      answer = .ok (.job .queued) ∧
        ∃ row, last.queue.jobs.find? claim.jobId = some row ∧
          row.status = .queued

/-- The clock reads this and `random.uniform` answers its upper end. -/
structure FullJitter (now : Time) (choice : Choice) : Prop where
  atClock : AtClock now choice
  jitter : choice.jitter = Jitter.full

instance : Answered (FullJitter now) :=
  ⟨fun _ full => full.atClock.2⟩

/-- Beyond the limit an execution ends in an `OverflowError` and leaves the
job as it was. -/
theorem overflow_evaluates (error : Exc) (me : Nat)
    (found : store.queue.jobs.find? claim.jobId = some job)
    (holds : heldUnder claim job = true) (first : 1 ≤ job.attemptCount)
    (more : job.attemptCount < settings.jobMaxAttempts)
    (exceeds : ¬ Representable settings job.attemptCount now) :
    Evaluates (Condition.allowing (AtClock now)) me
      (recordFailure settings claim error false).run store
      (.error .overflowError) store := by
  have atNow : ∀ choice, FullJitter now choice → choice.now = now :=
    fun _ full => full.atClock.1
  have finishes := @finishes_recordFailure settings claim error now me store
    job _ _ atNow found holds more
  obtain ⟨answer, last, runs, ends⟩ := evaluates_of_finishes finishes
    { now := now, jitter := Jitter.full } ⟨⟨rfl, rfl⟩, rfl⟩
  have weaker : Evaluates (Condition.allowing (AtClock now)) me
      (recordFailure settings claim error false).run store answer last :=
    runs.weaken fun _ _ _ full => full.atClock
  cases answer with
  | ok status =>
      obtain ⟨_, _, choice, full, retryAt, computed⟩ := ends
      rw [full.jitter, retryTime_full first exceeds] at computed
      cases computed
  | error exc =>
      obtain ⟨rfl, rfl, _⟩ := ends
      exact weaker

/-- A transient failure of a claim with an attempt left is recorded, whatever
the jitter, exactly when the longest retry can be represented. -/
theorem failure_recorded_iff_representable (settings : Settings)
    (claim : ClaimedJob) (error : Exc) (now : Time) (me : Nat) (store : Store)
    (job : Job) (found : store.queue.jobs.find? claim.jobId = some job)
    (holds : heldUnder claim job = true) (first : 1 ≤ job.attemptCount)
    (more : job.attemptCount < settings.jobMaxAttempts) :
    RecordsFailure settings claim error now me store ↔
      Representable settings job.attemptCount now := by
  constructor
  · rintro ⟨_, records⟩
    by_contra exceeds
    have overflow := overflow_evaluates error me found holds first more
      exceeds
    obtain ⟨raised, _⟩ := records _ _ overflow
    cases raised
  · intro fits
    have atNow : ∀ choice, AtClock now choice → choice.now = now :=
      fun _ atClock => atClock.1
    have finishes := @finishes_recordFailure settings claim error now me store
      job _ _ atNow found holds more
    have ends : ∀ answer last, Evaluates (Condition.allowing (AtClock now)) me
        (recordFailure settings claim error false).run store answer last →
        answer = .ok (.job .queued) ∧
          ∃ row, last.queue.jobs.find? claim.jobId = some row ∧
            row.status = .queued := by
      intro answer last runs
      have holds := runs.ensured (yields_of_finishes finishes)
      cases answer with
      | ok status =>
          obtain ⟨rfl, queued, _⟩ := holds
          exact ⟨rfl, queued⟩
      | error exc =>
          obtain ⟨_, _, choice, _, overflow⟩ := holds
          obtain ⟨retryAt, computed⟩ :=
            retryTime_representable first fits choice.jitter
          rw [computed] at overflow
          cases overflow
    obtain ⟨answer, last, runs, _⟩ := evaluates_of_finishes finishes
      { now := now } ⟨rfl, rfl⟩
    exact ⟨⟨answer, last, runs⟩, ends⟩

end Recording

/-! ## A job that was abandoned again and again -/

def manyAttempts : Settings :=
  { Settings.default with jobMaxAttempts := 100, attemptsBound := by decide }

def attemptedJob (attemptCount : Nat) : Job :=
  { newJob "job" 1 1 0 with
    status := .processing
    jobVersion := attemptCount
    workerToken := some "token"
    leaseUntil := some 120
    attemptCount := attemptCount }

def attemptedStore (attemptCount : Nat) : Store :=
  { queue := { jobs := Table.empty.insert (attemptedJob attemptCount) rfl } }

/-- At the sixtieth of a hundred attempts the delay exceeds every `timedelta`;
the error leaves the job processing. -/
theorem sixtieth_failure_overflows :
    (attemptedStore 60).queue.jobs.find? "job" = some (attemptedJob 60) ∧
    heldUnder ⟨"job", "token", 60⟩ (attemptedJob 60) = true ∧
    (attemptedJob 60).attemptCount < manyAttempts.jobMaxAttempts ∧
    Evaluates (Condition.allowing (AtClock 0)) 0
      (recordFailure manyAttempts ⟨"job", "token", 60⟩
        (.other "RuntimeError" "") false).run (attemptedStore 60)
      (.error .overflowError) (attemptedStore 60) ∧
    ¬ RecordsFailure manyAttempts ⟨"job", "token", 60⟩
      (.other "RuntimeError" "") 0 0 (attemptedStore 60) := by
  have holds : heldUnder ⟨"job", "token", 60⟩ (attemptedJob 60) = true := by
    decide
  have exceeds : ¬ Representable manyAttempts 60 0 := by
    rintro ⟨delta, _⟩
    norm_num [baseDelay, manyAttempts, Settings.default, timedeltaOverflow]
      at delta
  have overflow : Evaluates (Condition.allowing (AtClock 0)) 0
      (recordFailure manyAttempts ⟨"job", "token", 60⟩
        (.other "RuntimeError" "") false).run (attemptedStore 60)
      (.error .overflowError) (attemptedStore 60) :=
    overflow_evaluates _ 0 rfl holds (by decide) (by decide) exceeds
  refine ⟨rfl, holds, by decide, overflow, ?_⟩
  rintro ⟨_, records⟩
  obtain ⟨raised, _⟩ := records _ _ overflow
  cases raised

theorem first_failure_recorded_iff :
    RecordsFailure .default ⟨"job", "token", 1⟩ (.other "RuntimeError" "") 0 0
        (attemptedStore 1) ↔
      Representable .default 1 0 :=
  failure_recorded_iff_representable .default ⟨"job", "token", 1⟩
    (.other "RuntimeError" "") 0 0 (attemptedStore 1) (attemptedJob 1) rfl
    (by decide) (by decide) (by decide)

end SystemUni.Workers.Overflow
