import SystemUni.Workers.Heartbeats
import SystemUni.Workers.Overflow

/-!
# An execution settles its job

What an execution of a current claim has made of the job when it returns, from
the row it claimed and what `generate_student_transcript` does.
-/

set_option autoImplicit false

namespace SystemUni.Workers.Settlement

open Interleaving Relational
open SystemUni.Runtime.Errors
open SystemUni.Runtime.Statements
open SystemUni.Runtime.Rules
open SystemUni.Models.Rows
open SystemUni.Models.Jobs
open SystemUni.Models.Schema
open SystemUni.Services.Reports
open SystemUni.Workers.Tasks
open SystemUni.Workers.Queue
open SystemUni.Workers.Heartbeats
open SystemUni.Workers.Backoff
open SystemUni.Workers.Overflow

/-! ## What the environment lets happen -/

/-- Every call succeeds, the computation of the transcript ends in this way,
and a retry can be scheduled whatever the jitter. -/
structure Schedulable (settings : Settings) (attemptCount : Nat)
    (fault : Option Exc) (choice : Choice) : Prop where
  done : choice.call = .done
  ends : choice.fault = fault
  schedules : ∀ jitter, ∃ retryAt,
    retryTime settings attemptCount jitter choice.now = .ok retryAt

theorem retryTime_future {settings : Settings} {attemptCount : Nat}
    {jitter : Jitter} {now retryAt : Time}
    (computed : retryTime settings attemptCount jitter now = .ok retryAt) :
    now < retryAt := by
  have base : (0 : ℚ) < settings.jobRetryBaseSeconds := by
    exact_mod_cast settings.retryBaseBound
  have delay : (0 : ℚ) <
      settings.jobRetryBaseSeconds * 2 ^ ((attemptCount : ℤ) - 1) := by
    positivity
  have jittered := mul_nonneg jitter.nonnegative (half_pos delay).le
  have isLater := retryTime_ok computed
  linarith

/-! ## What is known of the store -/

section States

variable (claim : ClaimedJob) (kept : String → Prop) (targetId : Id)
  (initial : Store)

/-- Nothing has changed beside the job. -/
structure Beside (store : Store) : Prop where
  others : ∀ jobId, kept jobId → jobId ≠ claim.jobId →
    rowsOf store.queue jobId = rowsOf initial.queue jobId
  inputs : transcriptInputs targetId store = transcriptInputs targetId initial

/-- The job is as it was claimed, but for its lease. -/
structure Pending (job : Job) (store : Store) : Prop where
  row : ∃ row, store.queue.jobs.find? claim.jobId = some row ∧
    Beaten claim false job row
  unreported : store.queue.reports.find? claim.jobId = none
  beside : Beside claim kept targetId initial store

structure Reported (report : Report) (store : Store) : Prop where
  present : (store.queue.jobs.find? claim.jobId).isSome = true
  report : store.queue.reports.find? claim.jobId = some report
  beside : Beside claim kept targetId initial store

/-- The job and its report are these. -/
structure Stored (row : Job) (report : Option Report) (store : Store) :
    Prop where
  row : store.queue.jobs.find? claim.jobId = some row
  report : store.queue.reports.find? claim.jobId = report
  beside : Beside claim kept targetId initial store

def Completed (report : Report) (store : Store) : Prop :=
  ∃ row, row.status = .completed ∧
    Stored claim kept targetId initial row (some report) store

/-- The failure is recorded; a retry lies after the moment of recording. -/
def Recorded (job : Job) (error : Exc) (failed : Bool) (store : Store) :
    Prop :=
  ∃ row, row.status = (if failed then .failed else .queued) ∧
    row.attemptCount = job.attemptCount ∧
    row.lastError = some (errorMessage error) ∧
    (if failed then row.retryAt = none
      else ∃ retryAt, row.retryAt = some retryAt ∧ row.updatedAt < retryAt) ∧
    Stored claim kept targetId initial row none store

/-- What holds whatever the heartbeat does. -/
def Stable (holds : Store → Prop) : Prop :=
  ∀ before after, Follows claim kept targetId before after → holds before →
    holds after

variable {claim kept targetId initial}

theorem Beside.follows {before after : Store}
    (beside : Beside claim kept targetId initial before)
    (follows : Follows claim kept targetId before after) :
    Beside claim kept targetId initial after where
  others jobId isKept different :=
    (follows.others jobId isKept different).trans
      (beside.others jobId isKept different)
  inputs := follows.inputs.trans beside.inputs

theorem pending_stable (job : Job) :
    Stable claim kept targetId (Pending claim kept targetId initial job) := by
  intro before after follows pending
  obtain ⟨row, found, beaten⟩ := pending.row
  obtain ⟨next, nextFound, later⟩ := follows.row row found
  rw [pending.unreported] at later
  exact ⟨⟨next, nextFound, beaten.trans later⟩,
    follows.report.trans pending.unreported, pending.beside.follows follows⟩

theorem reported_stable (report : Report) :
    Stable claim kept targetId
      (Reported claim kept targetId initial report) := by
  intro before after follows reported
  obtain ⟨row, found⟩ := Option.isSome_iff_exists.mp reported.present
  obtain ⟨next, nextFound, _⟩ := follows.row row found
  exact ⟨by rw [nextFound]; rfl, follows.report.trans reported.report,
    reported.beside.follows follows⟩

theorem Stored.follows {row : Job} {report : Option Report}
    {before after : Store}
    (stored : Stored claim kept targetId initial row report before)
    (settled : row.status ≠ .processing)
    (completed : report.isSome = true → row.status = .completed)
    (follows : Follows claim kept targetId before after) :
    Stored claim kept targetId initial row report after := by
  obtain ⟨next, found, beaten⟩ := follows.row row stored.row
  rw [stored.report] at beaten
  have same := beaten.rests settled completed
  subst same
  exact ⟨found, follows.report.trans stored.report,
    stored.beside.follows follows⟩

theorem completed_stable (report : Report) :
    Stable claim kept targetId
      (Completed claim kept targetId initial report) := by
  rintro before after follows ⟨row, status, stored⟩
  refine ⟨row, status, stored.follows ?_ (fun _ => status) follows⟩
  rw [status]
  nofun

theorem recorded_stable (job : Job) (error : Exc) (failed : Bool) :
    Stable claim kept targetId
      (Recorded claim kept targetId initial job error failed) := by
  rintro before after follows ⟨row, status, counted, text, retry, stored⟩
  refine ⟨row, status, counted, text, retry,
    stored.follows ?_ nofun follows⟩
  rw [status]
  cases failed with
  | true => nofun
  | false => nofun

theorem Beaten.claimed {job row : Job} (beaten : Beaten claim false job row)
    (holds : heldUnder claim job = true) :
    heldUnder claim row = true ∧ row.reportType = job.reportType ∧
      row.targetId = job.targetId ∧ row.attemptCount = job.attemptCount := by
  rcases beaten with rfl | ⟨_, leaseUntil, updatedAt, rfl⟩ | ⟨absurd, _⟩
  · exact ⟨holds, rfl, rfl, rfl⟩
  · exact ⟨holds, rfl, rfl, rfl⟩
  · cases absurd

end States

/-- Pending, and the heartbeat has seen no report. -/
def Quiet (execution : Nat) (claim : ClaimedJob) (kept : String → Prop)
    (targetId : Id) (initial : Store) (job : Job) (store : Store) : Prop :=
  Pending claim kept targetId initial job store ∧
    (store.events execution).reportFound = false

/-! ## Statements of the execution -/

/-- A logic in which thread `me` executes the claim: these choices are allowed,
the computation of the transcript ends in one of these ways, and what is steady
still holds when the thread goes on. -/
structure Executing (logic : Logic university Exc) (me : Nat)
    (claim : ClaimedJob) (kept : String → Prop) (targetId : Id)
    (allowed : Choice → Prop) (faults : Option Exc → Prop)
    (steady : (Store → Prop) → Prop) : Prop where
  ends : ∀ choice, allowed choice → faults choice.fault
  possible : ∃ fault, faults fault
  stable : ∀ {holds : Store → Prop}, Stable claim kept targetId holds →
    steady holds
  quiet : ∀ initial job, steady (Quiet me claim kept targetId initial job)
  query : ∀ {α : Type} {holds : Store → Prop} {read : Store → α}
    {post : α → Store → Prop} {fail : Exc → Store → Prop} {store : Store},
    steady holds → holds store →
    (∀ later, holds later → post (read store) later) →
      logic.Holds (query read) post fail store
  acts : ∀ {α : Type} {holds : Store → Prop}
    {body : Nat → Choice → Store → α × Store} {post : α → Store → Prop}
    {fail : Exc → Store → Prop} {store : Store}, steady holds →
    (∀ choice, Persists claim store (body me choice store).2 ∧
      holds (body me choice store).2) →
    (∀ choice later, allowed choice → holds later →
      post (body me choice store).1 later) →
      logic.Holds (internal body) post fail store
  write : ∀ {α : Type} {holds : Store → Prop} {label : Label}
    {body : Choice → Store → Except Exc (α × Store)} {value : α}
    {next : Store} {post : α → Store → Prop} {fail : Exc → Store → Prop}
    {store : Store}, steady holds →
    (∀ choice, body choice store = .ok (value, next)) →
    Persists claim store next → holds next →
    (∀ later, holds later → post value later) →
      logic.Holds (transaction label body) post fail store
  starts : ∀ {child : Child} {holds : Store → Prop}
    {post : Unit → Store → Prop} {fail : Exc → Store → Prop} {store : Store},
    steady holds → holds store → (∀ later, holds later → post () later) →
      logic.Holds (startThread child) post fail store

section Statements

variable {logic : Logic university Exc} {me : Nat} {claim : ClaimedJob}
  {kept : String → Prop} {targetId : Id} {allowed : Choice → Prop}
  {faults : Option Exc → Prop} {steady : (Store → Prop) → Prop}
  {store : Store} {α : Type} {post : α → Store → Prop}
  {fail : Exc → Store → Prop}

theorem Executing.observe
    (executing : Executing logic me claim kept targetId allowed faults steady)
    {holds : Store → Prop} (steadily : steady holds) (here : holds store)
    {observe : Nat → Choice → Store → α}
    (returns : ∀ choice later, allowed choice → holds later →
      post (observe me choice store) later) :
    logic.Holds
      (internal fun me choice store => (observe me choice store, store)) post
      fail store :=
  executing.acts steadily (fun _ => ⟨fun _ found => found, here⟩) returns

end Statements

/-! ## The functions of the execution -/

section Functions

variable {logic : Logic university Exc} {me : Nat} {claim : ClaimedJob}
  {kept : String → Prop} {targetId : Id} {allowed : Choice → Prop}
  {faults : Option Exc → Prop} {steady : (Store → Prop) → Prop}
  {settings : Settings} {initial store : Store} {job : Job}

theorem completed_of_complete {report : Report} (now : Time)
    (reported : Reported claim kept targetId initial report store) :
    Completed claim kept targetId initial report
      { store with queue := completeJob claim.jobId now store.queue } := by
  obtain ⟨row, found⟩ := Option.isSome_iff_exists.mp reported.present
  have isJob := Table.key_of_find? found
  have follows : Follows claim kept targetId store
      { store with queue := completeJob claim.jobId now store.queue } :=
    follows_complete now (by rw [reported.report]; rfl)
  have beside := reported.beside.follows follows
  by_cases done : isCompleted row = true
  · refine ⟨row, of_decide_eq_true done, ?_, reported.report, beside⟩
    exact Table.find?_updateWhere_skip (completeValues_jobId now) found
      (by simp [done])
  · refine ⟨completeValues now row, rfl, ?_, reported.report, beside⟩
    change (Table.updateWhere _ _ (completeValues now)
      (completeValues_jobId now)).find? claim.jobId = _
    rw [Table.find?_updateWhere, found]
    simp [isJob, done]

theorem recorded_of_fail {row : Job} {error : Exc} {failed : Bool}
    {retryAt : Option Time} {now : Time}
    (found : store.queue.jobs.find? claim.jobId = some row)
    (holds : heldUnder claim row = true)
    (counted : row.attemptCount = job.attemptCount)
    (unreported : store.queue.reports.find? claim.jobId = none)
    (beside : Beside claim kept targetId initial store)
    (decided : if failed then retryAt = none
      else ∃ time, retryAt = some time ∧ now < time) :
    Recorded claim kept targetId initial job error failed
      { store with
        queue := failJob claim failed retryAt (errorMessage error) now
          store.queue } := by
  refine ⟨failureValues failed retryAt (errorMessage error) now row, rfl,
    counted, rfl, decided, ?_, unreported, ?_, beside.inputs⟩
  · change (Table.updateWhere _ _ (failureValues failed retryAt _ now)
      (failureValues_jobId failed retryAt _ now)).find? claim.jobId = _
    rw [Table.find?_updateWhere, found]
    simp [holds]
  · intro jobId isKept different
    rw [← beside.others jobId isKept different]
    refine Prod.ext (find?_updateWhere_elsewhere
      (failureValues_jobId failed retryAt _ now) ?_ different) rfl
    intro other otherHolds
    exact (heldUnder_iff.mp otherHolds).1

theorem completed_of_persist {report : Report} (now : Time)
    (own : report.jobId = claim.jobId) (held : heldUnder claim job = true)
    (pending : Pending claim kept targetId initial job store) :
    ∃ queue, persistReport report now store.queue = .ok queue ∧
      Completed claim kept targetId initial report
        { store with queue := queue } := by
  obtain ⟨row, found, beaten⟩ := pending.row
  have status := (heldUnder_iff.mp (Beaten.claimed beaten held).1).2.1
  have isJob := Table.key_of_find? found
  have fresh : store.queue.reports.find? report.jobId = none := by
    rw [own]
    exact pending.unreported
  have present : (store.queue.jobs.find? report.jobId).isNone = false := by
    rw [own, found]
    rfl
  refine ⟨completeJob report.jobId now { store.queue with
      reports := store.queue.reports.insert report fresh }, ?_,
    completeValues now row, rfl, ?_, ?_, ?_, pending.beside.inputs⟩
  · unfold persistReport
    rw [dif_pos fresh, if_neg (by simp [present])]
  · change (Table.updateWhere _ _ (completeValues now)
      (completeValues_jobId now)).find? claim.jobId = _
    rw [Table.find?_updateWhere, found]
    simp [isJob, own, isCompleted, status]
  · change (store.queue.reports.insert report fresh).find? claim.jobId = _
    rw [Table.find?_insert, if_pos own]
  · intro jobId isKept different
    rw [← pending.beside.others jobId isKept different]
    refine Prod.ext (find?_updateWhere_elsewhere (completeValues_jobId now)
      ?_ different) ?_
    · intro other applies
      rw [← own]
      exact of_decide_eq_true (Bool.and_eq_true_iff.mp applies).1
    · change (store.queue.reports.insert report fresh).find? jobId = _
      rw [Table.find?_insert, own, if_neg (Ne.symm different)]
      rfl

variable (executing :
  Executing logic me claim kept targetId allowed faults steady)

include executing

theorem executes_reconcile_none {holds : Store → Prop}
    {post : Option Report → Store → Prop} {fail : Exc → Store → Prop}
    (steadily : steady holds)
    (unreported : ∀ store, holds store →
      store.queue.reports.find? claim.jobId = none)
    (here : holds store)
    (returns : ∀ later, holds later → post none later) :
    logic.Holds (reconcileReportedJob claim.jobId) post fail store := by
  refine logic.sequences (executing.query steadily here
    fun later after => ?_)
  rw [unreported store here]
  exact logic.returns _ (returns later after)

theorem executes_reconcile_some {report : Report}
    {post : Option Report → Store → Prop} {fail : Exc → Store → Prop}
    (reported : Reported claim kept targetId initial report store)
    (returns : ∀ later,
      Completed claim kept targetId initial report later →
      post (some report) later) :
    logic.Holds (reconcileReportedJob claim.jobId) post fail store := by
  have steadily := executing.stable
    (@reported_stable claim kept targetId initial report)
  refine logic.sequences (executing.query steadily reported
    fun afterRead stillReported => ?_)
  rw [reported.report]
  refine logic.sequences (executing.observe steadily stillReported
    fun choice afterClock _ now => ?_)
  refine logic.sequences (executing.write
    (executing.stable (completed_stable report)) (fun _ => rfl)
    (fun _ found => found) (completed_of_complete choice.now now) ?_)
  intro later completed
  exact logic.returns _ (returns later completed)

theorem executes_completedResult {report : Report}
    {post : ExecutionResult → Store → Prop} {fail : Exc → Store → Prop}
    (completed : Completed claim kept targetId initial report store)
    (returns : ∀ later,
      Completed claim kept targetId initial report later →
      post ⟨.job .completed, claim.jobId, some report.result⟩ later) :
    logic.Holds (completedResult claim.jobId) post fail store := by
  have ⟨_, _, stored⟩ := completed
  refine logic.sequences (logic.sequences (executing.query
    (executing.stable (completed_stable report)) completed
    fun later after => ?_))
  rw [stored.report]
  exact logic.returns _ (logic.returns _ (returns later after))

/-! ### A failure -/

theorem executes_retryAfter {holds : Store → Prop}
    {post : Option Time → Store → Prop} {fail : Exc → Store → Prop}
    {attemptCount : Nat} {failed : Bool} {now : Time}
    (steadily : steady holds) (here : holds store)
    (schedules : failed = false → ∀ jitter, ∃ retryAt,
      retryTime settings attemptCount jitter now = .ok retryAt)
    (returns : ∀ retryAt later,
      (if failed then retryAt = none
        else ∃ time, retryAt = some time ∧ now < time) →
      holds later → post retryAt later) :
    logic.Holds (retryAfter settings attemptCount failed now) post fail
      store := by
  cases failed with
  | true => exact logic.returns _ (returns none store rfl here)
  | false =>
      refine logic.sequences (executing.observe steadily here
        fun choice later _ after => ?_)
      obtain ⟨retryAt, computed⟩ := schedules rfl choice.jitter
      rw [computed]
      exact logic.returns _ (returns _ later
        ⟨retryAt, rfl, retryTime_future computed⟩ after)

/-- The retry has to be computable where there is one. -/
theorem executes_recordFailure {error : Exc} {permanent : Bool}
    {post : ExecutionStatus → Store → Prop} {fail : Exc → Store → Prop}
    (held : heldUnder claim job = true)
    (pending : Pending claim kept targetId initial job store)
    (schedules : (permanent ||
        decide (settings.jobMaxAttempts ≤ job.attemptCount)) = false →
      ∀ choice, allowed choice → ∀ jitter, ∃ retryAt,
        retryTime settings job.attemptCount jitter choice.now = .ok retryAt)
    (returns : ∀ later,
      Recorded claim kept targetId initial job error
        (permanent || decide (settings.jobMaxAttempts ≤ job.attemptCount))
        later →
      post (.job (if permanent ||
          decide (settings.jobMaxAttempts ≤ job.attemptCount)
        then .failed else .queued)) later) :
    logic.Holds (recordFailure settings claim error permanent) post fail
      store := by
  have steadily : steady (Pending claim kept targetId initial job) :=
    executing.stable (pending_stable job)
  obtain ⟨row, found, beaten⟩ := pending.row
  obtain ⟨holds, _, _, sameAttempts⟩ := Beaten.claimed beaten held
  obtain ⟨_, status, token, version⟩ := heldUnder_iff.mp holds
  have owned : ownsJob row claim = true := by simp [ownsJob, token, version]
  refine logic.sequences (executing.query steadily pending
    fun afterRead read => ?_)
  rw [found]
  dsimp only
  rw [if_neg (not_not_intro status), if_neg (by simp [owned]), sameAttempts]
  refine logic.sequences (executing.observe steadily read
    fun clock afterClock allows ticked => ?_)
  generalize (permanent ||
    decide (settings.jobMaxAttempts ≤ job.attemptCount)) = failed
    at schedules returns ⊢
  refine logic.sequences (executes_retryAfter executing steadily ticked
    (fun again => schedules again clock allows)
    fun retryAt afterRetry decided drawn => ?_)
  obtain ⟨last, lastFound, lastBeaten⟩ := drawn.row
  obtain ⟨lastHolds, _, _, lastAttempts⟩ := Beaten.claimed lastBeaten held
  have applies : afterRetry.queue.jobs.rows.any (heldUnder claim) = true :=
    List.any_eq_true.mpr ⟨last, Table.mem_of_find? lastFound, lastHolds⟩
  refine logic.sequences (executing.write
    (executing.stable (recorded_stable job error failed)) (fun _ => rfl)
    (fun _ reported => reported)
    (recorded_of_fail lastFound lastHolds lastAttempts drawn.unreported
      drawn.beside decided) ?_)
  intro later recorded
  rw [applies]
  exact logic.returns _ (returns later recorded)

/-! ### A report -/

theorem executes_persistOrAdoptReport {transcript : Transcript}
    {post : Report → Store → Prop} {fail : Exc → Store → Prop}
    (held : heldUnder claim job = true)
    (pending : Pending claim kept targetId initial job store)
    (returns : ∀ later,
      Completed claim kept targetId initial ⟨claim.jobId, transcript⟩ later →
      post ⟨claim.jobId, transcript⟩ later) :
    logic.Holds (persistOrAdoptReport claim.jobId transcript) post fail
      store := by
  refine logic.handles (logic.sequences (executing.observe
    (executing.stable (pending_stable job)) pending
    fun choice afterClock _ ticked => ?_))
  obtain ⟨queue, persisted, completed⟩ : ∃ queue,
      persistReport ⟨claim.jobId, transcript⟩ choice.now afterClock.queue =
        .ok queue ∧
      Completed claim kept targetId initial ⟨claim.jobId, transcript⟩
        { afterClock with queue := queue } :=
    completed_of_persist choice.now rfl held ticked
  have commits : (persistReport ⟨claim.jobId, transcript⟩ choice.now
      afterClock.queue).map (fun queue =>
        ((), { afterClock with queue := queue })) =
      .ok ((), { afterClock with queue := queue }) := by
    rw [persisted]
    rfl
  refine logic.sequences (executing.write
    (executing.stable (completed_stable _)) (fun _ => commits) ?_
    completed ?_)
  · intro report found
    rw [ticked.unreported] at found
    cases found
  · intro later after
    exact logic.returns _ (returns later after)

end Functions

/-! ### The transcript -/

/-- What `generate_student_transcript` makes of the rows it reads. -/
def transcriptOutcome (fault : Option Exc)
    (inputs : Option Student × List Enrollment) :
    Except Exc (Option Transcript) :=
  match inputs.1 with
  | none => .ok none
  | some student =>
      match fault with
      | some exc => .error exc
      | none => .ok (some (transcriptOf student inputs.2))

/-- What the body of the heartbeat's block ends in. -/
def blockOutcome (job : Job) (outcome : Except Exc (Option Transcript)) :
    Except Exc (Option Transcript) :=
  if job.reportType ≠ "transcript" then
    .error (.permanentJobError ("Unsupported report type: " ++ job.reportType))
  else outcome

/-- The block has computed what was to be computed; the job still waits. -/
def BlockReturns (claim : ClaimedJob) (kept : String → Prop)
    (faults : Option Exc → Prop) (initial : Store) (job : Job)
    (generated : ExecutionResult ⊕ Option Transcript) (later : Store) : Prop :=
  ∃ fault transcript, faults fault ∧ generated = .inr transcript ∧
    .ok transcript = blockOutcome job (transcriptOutcome fault
      (transcriptInputs job.targetId initial)) ∧
    Pending claim kept job.targetId initial job later

def BlockRaises (claim : ClaimedJob) (kept : String → Prop)
    (faults : Option Exc → Prop) (initial : Store) (job : Job) (exc : Exc)
    (later : Store) : Prop :=
  ∃ fault, faults fault ∧
    .error exc = blockOutcome job (transcriptOutcome fault
      (transcriptInputs job.targetId initial)) ∧
    Pending claim kept job.targetId initial job later

theorem quiet_stable {claim : ClaimedJob} {kept : String → Prop}
    {targetId : Id} (initial : Store) (job : Job) :
    Stable claim kept targetId (Quiet 0 claim kept targetId initial job) := by
  rintro before after follows ⟨pending, unseen⟩
  refine ⟨pending_stable job _ _ follows pending, ?_⟩
  by_contra seen
  rcases follows.found (by simpa using seen) with earlier | reported
  · rw [unseen] at earlier
    cases earlier
  · rw [pending.unreported] at reported
    cases reported

/-- What the `try` block of `process_claimed_report` ends in. -/
def executionOutcome (job : Job) (outcome : Except Exc (Option Transcript)) :
    Except Exc Transcript :=
  match blockOutcome job outcome with
  | .error exc => .error exc
  | .ok none =>
      .error (.permanentJobError
        ("Student " ++ job.targetId.repr ++ " no longer exists"))
  | .ok (some transcript) => .ok transcript

/-- Any exception but those of the code itself comes from the computation. -/
theorem fault_of_outcome {job : Job} {fault : Option Exc}
    {inputs : Option Student × List Enrollment} {exc : Exc}
    (outcome : executionOutcome job (transcriptOutcome fault inputs) =
      .error exc)
    (transient : ∀ message, exc ≠ .permanentJobError message) :
    fault = some exc := by
  unfold executionOutcome blockOutcome at outcome
  by_cases unsupported : job.reportType ≠ "transcript"
  · rw [if_pos unsupported] at outcome
    cases outcome
    exact absurd rfl (transient _)
  · rw [if_neg unsupported] at outcome
    unfold transcriptOutcome at outcome
    cases found : inputs.1 with
    | none =>
        rw [found] at outcome
        cases outcome
        exact absurd rfl (transient _)
    | some student =>
        rw [found] at outcome
        cases fault with
        | none => cases outcome
        | some raised =>
            cases outcome
            rfl

section Block

variable {logic : Logic university Exc} {me : Nat} {claim : ClaimedJob}
  {kept : String → Prop} {allowed : Choice → Prop}
  {faults : Option Exc → Prop} {steady : (Store → Prop) → Prop}
  {initial store : Store} {job : Job}
  (executing :
    Executing logic me claim kept job.targetId allowed faults steady)

include executing

theorem executes_generate {holds : Store → Prop} (steadily : steady holds)
    (beside : ∀ store, holds store →
      Beside claim kept job.targetId initial store)
    (here : holds store) :
    logic.Holds (generateStudentTranscript job.targetId)
      (fun transcript later => (∃ fault, faults fault ∧ .ok transcript =
        transcriptOutcome fault (transcriptInputs job.targetId initial)) ∧
          holds later)
      (fun exc later => (∃ fault, faults fault ∧ .error exc =
        transcriptOutcome fault (transcriptInputs job.targetId initial)) ∧
          holds later) store := by
  refine logic.sequences (executing.query steadily here
    fun afterStudent read => ?_)
  have students := congrArg Prod.fst (beside store here).inputs
  rw [show store.db.tables.students.find? job.targetId =
    (transcriptInputs job.targetId initial).1 from students]
  unfold transcriptOutcome
  cases (transcriptInputs job.targetId initial).1 with
  | none =>
      obtain ⟨fault, possible⟩ := executing.possible
      exact logic.returns _ ⟨⟨fault, possible, rfl⟩, read⟩
  | some student =>
      refine logic.sequences (executing.query steadily read
        fun afterEnrollments listed => ?_)
      have enrollments := congrArg Prod.snd (beside afterStudent read).inputs
      refine logic.sequences (executing.observe steadily listed
        fun choice later allows after => ?_)
      have possible := executing.ends choice allows
      cases fault : choice.fault with
      | some exc =>
          rw [fault] at possible
          exact logic.raises _ ⟨⟨some exc, possible, rfl⟩, after⟩
      | none =>
          rw [fault] at possible
          refine logic.returns _ ⟨⟨none, possible, ?_⟩, after⟩
          rw [← enrollments]
          rfl

/-! ### Under the lease -/

theorem executes_generateUnderLease
    (quiet : Quiet me claim kept job.targetId initial job store) :
    logic.Holds (generateUnderLease claim job.reportType job.targetId me)
      (BlockReturns claim kept faults initial job)
      (BlockRaises claim kept faults initial job) store := by
  have steadily := executing.quiet initial job
  refine logic.sequences (executes_reconcile_none executing steadily
    (fun _ here => here.1.unreported) quiet fun afterRead read => ?_)
  rw [if_neg (by simp)]
  unfold BlockReturns BlockRaises blockOutcome
  by_cases unsupported : job.reportType ≠ "transcript"
  · rw [if_pos unsupported]
    simp only [if_pos unsupported]
    obtain ⟨fault, possible⟩ := executing.possible
    exact logic.sequences (logic.raises _ ⟨fault, possible, rfl, read.1⟩)
  · rw [if_neg unsupported]
    simp only [if_neg unsupported]
    refine logic.sequences (logic.weakens (executes_generate executing
      steadily (fun _ here => here.1.beside) read) ?_ ?_)
    · rintro transcript later ⟨⟨fault, possible, isOutcome⟩, generated⟩
      refine logic.sequences (executing.observe steadily generated
        fun choice last _ after => ?_)
      rw [if_neg (by simp [generated.2])]
      exact logic.returns _
        ⟨fault, transcript, possible, rfl, isOutcome, after.1⟩
    · rintro exc later ⟨⟨fault, possible, isOutcome⟩, after⟩
      exact ⟨fault, possible, isOutcome, after.1⟩

omit executing in
theorem Pending.setEvents {targetId : Id} {execution : Nat} (events : Events)
    (pending : Pending claim kept targetId initial job store) :
    Pending claim kept targetId initial job
      (store.setEvents execution events) where
  row := pending.row
  unreported := pending.unreported
  beside := ⟨pending.beside.others, pending.beside.inputs⟩

theorem executes_stop {post : Unit → Store → Prop} {fail : Exc → Store → Prop}
    (pending : Pending claim kept job.targetId initial job store)
    (returns : ∀ later, Pending claim kept job.targetId initial job later →
      post () later) :
    logic.Holds
      (internal fun _ _ store => ((), store.setEvents me
        { store.events me with stop := true })) post fail store :=
  executing.acts (executing.stable (pending_stable job))
    (fun _ => ⟨fun _ found => found, pending.setEvents _⟩)
    fun _ later _ still => returns later still

theorem executes_jobHeartbeat
    (pending : Pending claim kept job.targetId initial job store) :
    logic.Holds
      (jobHeartbeat claim
        (generateUnderLease claim job.reportType job.targetId))
      (BlockReturns claim kept faults initial job)
      (BlockRaises claim kept faults initial job) store := by
  have steadily := executing.quiet initial job
  refine logic.sequences (executing.acts steadily
    (fun _ => ⟨fun _ found => found, pending.setEvents {}, by
      simp [Store.setEvents]⟩) fun choice afterSet _ set => ?_)
  refine logic.sequences (executing.starts steadily set
    fun started quiet => ?_)
  refine holds_withFinally logic (logic.weakens
    (executes_generateUnderLease executing quiet) ?_ ?_)
  · rintro generated last ⟨fault, transcript, possible, isRight, isOutcome,
      after⟩
    exact executes_stop executing after fun final still =>
      ⟨fault, transcript, possible, isRight, isOutcome, still⟩
  · rintro exc last ⟨fault, possible, isOutcome, after⟩
    exact executes_stop executing after
      fun final still => ⟨fault, possible, isOutcome, still⟩

/-! ### The `try` block -/

theorem executes_executeClaim (held : heldUnder claim job = true)
    (pending : Pending claim kept job.targetId initial job store) :
    logic.Holds (executeClaim claim)
      (fun result later => ∃ fault transcript, faults fault ∧
        executionOutcome job (transcriptOutcome fault
          (transcriptInputs job.targetId initial)) = .ok transcript ∧
        result = ⟨.job .completed, claim.jobId, some transcript⟩ ∧
        Completed claim kept job.targetId initial ⟨claim.jobId, transcript⟩
          later)
      (fun exc later => ∃ fault, faults fault ∧
        executionOutcome job (transcriptOutcome fault
          (transcriptInputs job.targetId initial)) = .error exc ∧
        Pending claim kept job.targetId initial job later) store := by
  have steadily : steady (Pending claim kept job.targetId initial job) :=
    executing.stable (pending_stable job)
  have unreported : ∀ store,
      Pending claim kept job.targetId initial job store →
      store.queue.reports.find? claim.jobId = none :=
    fun _ here => here.unreported
  obtain ⟨row, found, beaten⟩ := pending.row
  obtain ⟨holds, sameType, sameTarget, _⟩ := Beaten.claimed beaten held
  obtain ⟨_, status, token, version⟩ := heldUnder_iff.mp holds
  have owned : ownsJob row claim = true := by simp [ownsJob, token, version]
  refine logic.sequences (executing.query steadily pending
    fun afterRead read => ?_)
  rw [found]
  refine logic.sequences (executes_reconcile_none executing steadily
    unreported read fun afterCheck checked => ?_)
  rw [if_neg (by simp), if_neg (not_not_intro status),
    if_neg (by simp [owned]), sameType, sameTarget]
  refine logic.sequences (logic.weakens
    (executes_jobHeartbeat executing checked) ?_ ?_)
  · rintro generated later ⟨fault, transcript, possible, rfl, isOutcome,
      after⟩
    refine logic.sequences (executes_reconcile_none executing steadily
      unreported after fun afterLast last => ?_)
    rw [if_neg (by simp)]
    unfold executionOutcome
    cases transcript with
    | none =>
        refine logic.raises _ ⟨fault, possible, ?_, last⟩
        rw [← isOutcome]
    | some transcript =>
        refine logic.sequences (executes_persistOrAdoptReport executing held
          last fun persisted completed => ?_)
        refine executes_completedResult executing completed
          fun final still => ?_
        refine ⟨fault, transcript, possible, ?_, rfl, still⟩
        rw [← isOutcome]
  · rintro exc later ⟨fault, possible, isOutcome, after⟩
    refine ⟨fault, possible, ?_, after⟩
    unfold executionOutcome
    rw [← isOutcome]

end Block

/-! ## Verdicts -/

inductive Verdict where
  | completed (transcript : Transcript)
  | failed (error : Exc)
  | retried (error : Exc)
  /-- The execution steps aside. -/
  | released

/-- What the `except` clauses decide. -/
def errorVerdict (settings : Settings) (job : Job) : Exc → Verdict
  | .permanentJobError message => .failed (.permanentJobError message)
  | .leaseLostError _ => .released
  | exc =>
      if settings.jobMaxAttempts ≤ job.attemptCount then .failed exc
      else .retried exc

def verdict (settings : Settings) (job : Job)
    (outcome : Except Exc (Option Transcript)) : Verdict :=
  if job.reportType ≠ "transcript" then
    .failed (.permanentJobError
      ("Unsupported report type: " ++ job.reportType))
  else
    match outcome with
    | .ok (some transcript) => .completed transcript
    | .ok none =>
        .failed (.permanentJobError
          ("Student " ++ job.targetId.repr ++ " no longer exists"))
    | .error exc => errorVerdict settings job exc

theorem verdict_eq (settings : Settings) (job : Job)
    (outcome : Except Exc (Option Transcript)) :
    verdict settings job outcome =
      match executionOutcome job outcome with
      | .ok transcript => .completed transcript
      | .error exc => errorVerdict settings job exc := by
  unfold verdict executionOutcome blockOutcome
  by_cases unsupported : job.reportType ≠ "transcript"
  · rw [if_pos unsupported, if_pos unsupported]
    rfl
  · rw [if_neg unsupported, if_neg unsupported]
    cases outcome with
    | error exc => rfl
    | ok transcript =>
        cases transcript with
        | none => rfl
        | some transcript => rfl

/-- The job and its report after the verdict, and what is returned. -/
def Verdict.Reached (claim : ClaimedJob) (kept : String → Prop) (initial : Store)
    (job : Job) (result : ExecutionResult) (store : Store) : Verdict → Prop
  | .completed transcript =>
      result = ⟨.job .completed, claim.jobId, some transcript⟩ ∧
        Completed claim kept job.targetId initial ⟨claim.jobId, transcript⟩
          store
  | .failed error =>
      result = ⟨.job .failed, claim.jobId, none⟩ ∧
        Recorded claim kept job.targetId initial job error true store
  | .retried error =>
      result = ⟨.job .queued, claim.jobId, none⟩ ∧
        Recorded claim kept job.targetId initial job error false store
  | .released =>
      result = ⟨.alreadyProcessing, claim.jobId, none⟩ ∧
        Pending claim kept job.targetId initial job store

section Verdicts

variable {logic : Logic university Exc} {me : Nat} {claim : ClaimedJob}
  {kept : String → Prop} {allowed : Choice → Prop}
  {faults : Option Exc → Prop} {steady : (Store → Prop) → Prop}
  {settings : Settings} {initial store : Store} {job : Job}
  (executing :
    Executing logic me claim kept job.targetId allowed faults steady)

include executing

theorem executes_transient {exc : Exc} (held : heldUnder claim job = true)
    (pending : Pending claim kept job.targetId initial job store)
    (schedules : job.attemptCount < settings.jobMaxAttempts →
      ∀ choice, allowed choice → ∀ jitter, ∃ retryAt,
        retryTime settings job.attemptCount jitter choice.now =
          .ok retryAt) :
    logic.Holds (do
        let existing ← reconcileReportedJob claim.jobId
        if existing.isSome then return ← completedResult claim.jobId
        let status ← recordFailure settings claim exc false
        return ⟨status, claim.jobId, none⟩)
      (fun result later => (if settings.jobMaxAttempts ≤ job.attemptCount
        then Verdict.failed exc else .retried exc).Reached claim kept initial
          job result later)
      (fun _ _ => False) store := by
  refine logic.sequences (executes_reconcile_none executing
    (executing.stable (pending_stable job))
    (fun _ here => here.unreported) pending fun afterRead read => ?_)
  rw [if_neg (by simp)]
  refine logic.sequences (executes_recordFailure executing held read
    (fun again => schedules (by simpa using again))
    fun later recorded => ?_)
  by_cases exhausted : settings.jobMaxAttempts ≤ job.attemptCount
  · simp only [exhausted, decide_true, Bool.or_true, if_true] at recorded ⊢
    exact logic.returns _ ⟨rfl, recorded⟩
  · simp only [exhausted, decide_false, Bool.or_false, Bool.false_eq_true,
      if_false] at recorded ⊢
    exact logic.returns _ ⟨rfl, recorded⟩

theorem executes_handleError (exc : Exc) (held : heldUnder claim job = true)
    (pending : Pending claim kept job.targetId initial job store)
    (schedules : (∀ message, exc ≠ .permanentJobError message) →
      job.attemptCount < settings.jobMaxAttempts →
        ∀ choice, allowed choice → ∀ jitter, ∃ retryAt,
          retryTime settings job.attemptCount jitter choice.now =
            .ok retryAt) :
    logic.Holds (handleError settings claim exc)
      (fun result later => (errorVerdict settings job exc).Reached claim kept
        initial job result later)
      (fun _ _ => False) store := by
  cases exc with
  | permanentJobError message =>
      refine logic.sequences (executes_recordFailure executing held pending
        nofun fun later recorded => ?_)
      exact logic.returns _ ⟨rfl, recorded⟩
  | leaseLostError jobId =>
      refine logic.sequences (executes_reconcile_none executing
        (executing.stable (pending_stable job))
        (fun _ here => here.unreported) pending fun afterRead read => ?_)
      rw [if_neg (by simp)]
      exact logic.returns _ ⟨rfl, read⟩
  | sql kind text =>
      exact executes_transient executing held pending (schedules nofun)
  | httpException statusCode detail =>
      exact executes_transient executing held pending (schedules nofun)
  | overflowError =>
      exact executes_transient executing held pending (schedules nofun)
  | other name text =>
      exact executes_transient executing held pending (schedules nofun)

/-- Whatever the logic: the job ends in the verdict on one of the ways the
computation of the transcript may end. -/
theorem executes_processClaimedReport (held : heldUnder claim job = true)
    (pending : Pending claim kept job.targetId initial job store)
    (schedules : ∀ exc, faults (some exc) →
      job.attemptCount < settings.jobMaxAttempts →
        ∀ choice, allowed choice → ∀ jitter, ∃ retryAt,
          retryTime settings job.attemptCount jitter choice.now =
            .ok retryAt) :
    logic.Holds (processClaimedReport settings claim)
      (fun result later => ∃ fault, faults fault ∧
        (verdict settings job (transcriptOutcome fault
          (transcriptInputs job.targetId initial))).Reached claim kept initial
            job result later)
      (fun _ _ => False) store := by
  refine logic.handles (logic.weakens
    (executes_executeClaim executing held pending) ?_ ?_)
  · rintro result later
      ⟨fault, transcript, possible, isOutcome, rfl, completed⟩
    refine ⟨fault, possible, ?_⟩
    rw [verdict_eq, isOutcome]
    exact ⟨rfl, completed⟩
  · rintro exc later ⟨fault, possible, isOutcome, after⟩
    refine logic.weakens (executes_handleError executing exc held after
      fun transient => ?_) ?_ fun _ _ raised => raised
    · have raised := fault_of_outcome isOutcome transient
      exact schedules exc (raised ▸ possible)
    · intro result last reached
      refine ⟨fault, possible, ?_⟩
      rw [verdict_eq, isOutcome]
      exact reached

end Verdicts

/-! ## With any generator

Where there is a report, `generate_student_transcript` is not called. -/

theorem executes_reported {logic : Logic university Exc} {me : Nat}
    {claim : ClaimedJob} {kept : String → Prop} {targetId : Id}
    {allowed : Choice → Prop} {faults : Option Exc → Prop}
    {steady : (Store → Prop) → Prop} {settings : Settings}
    {initial store : Store} {generate : Id → Py (Option Transcript)}
    {report : Report}
    (executing : Executing logic me claim kept targetId allowed faults steady)
    (reported : Reported claim kept targetId initial report store) :
    logic.Holds (processClaimedReportWith generate settings claim)
      (fun result later =>
        result = ⟨.job .completed, claim.jobId, some report.result⟩ ∧
          Completed claim kept targetId initial report later)
      (fun _ _ => False) store := by
  obtain ⟨row, found⟩ := Option.isSome_iff_exists.mp reported.present
  refine logic.handles (logic.sequences (executing.query
    (executing.stable (reported_stable report)) reported
    fun afterRead read => ?_))
  rw [found]
  refine logic.sequences (executes_reconcile_some executing read
    fun later completed => ?_)
  rw [if_pos (show (some report).isSome = true from rfl)]
  exact executes_completedResult executing completed
    fun last still => ⟨rfl, still⟩

/-! ## The execution among others -/

/-- Thread 0 executes the claim beside its heartbeat. -/
theorem execution_executing {claim : ClaimedJob} {kept : String → Prop}
    {targetId : Id} {settings : Settings} {attemptCount : Nat}
    {fault : Option Exc} :
    Executing ((executionDiscipline claim kept targetId (Condition.allowing
        (Schedulable settings attemptCount fault))).logic 0 Exc) 0 claim kept
      targetId (Schedulable settings attemptCount fault) (· = fault)
      (Stable claim kept targetId) where
  ends _ schedulable := schedulable.ends
  possible := ⟨fault, rfl⟩
  stable stable := stable
  quiet initial job := quiet_stable initial job
  query stable here returns := by
    refine runs_succeeding execution_stutters trivial
      (fun _ schedulable => schedulable.done) ?_ ?_
    · intro choice exc later _ refused
      cases refused
    · intro choice value next _ result
      cases result
      exact ⟨trivial, fun _ found => found,
        fun later follows => returns later (stable _ _ follows.rely here)⟩
  acts stable here returns := runs_internal fun choice schedulable =>
    ⟨trivial, (here choice).1, fun later follows =>
      returns choice later schedulable
        (stable _ _ follows.rely (here choice).2)⟩
  write stable commits persists here returns := by
    refine runs_succeeding execution_stutters trivial
      (fun _ schedulable => schedulable.done) ?_ ?_
    · intro choice exc later _ refused
      rw [commits] at refused
      cases refused
    · intro choice written after _ result
      rw [commits] at result
      cases result
      exact ⟨trivial, persists,
        fun later follows => returns later (stable _ _ follows.rely here)⟩
  starts stable here returns := fun later _ rely =>
    returns later (stable _ _ rely here)

/-- The execution; the others answer nothing. -/
def executing (program : Py ExecutionResult) :
    Prog university (Option (Except Exc ExecutionResult)) :=
  program.run.bind fun given => .ret (some given)

/-- Whatever leaves the job, its report, the kept jobs and the inputs of the
transcript alone. -/
inductive Elsewhere (claim : ClaimedJob) (kept : String → Prop)
    (targetId : Id) :
    Prog university (Option (Except Exc ExecutionResult)) → Prop where
  | other {α : Type} (program : Prog university α)
      (leaves : program.Keeps (watched claim kept targetId)) :
      Elsewhere claim kept targetId (program.bind fun _ => .ret none)

/-- The threads of the claim are its heartbeats; those of other claims come
with the others. -/
def executionSystem (settings : Settings) (claim : ClaimedJob)
    (kept : String → Prop) (targetId : Id) :
    System university (Option (Except Exc ExecutionResult)) where
  start _ := Elsewhere claim kept targetId
  code
    | .heartbeat other execution =>
        if other = claim then
          (heartbeatLoop settings claim execution).run.bind fun _ => .ret none
        else .ret none

section System

variable {settings : Settings} {claim : ClaimedJob} {kept : String → Prop}
  {targetId : Id} {condition : Condition university}

/-- A condition on what the execution has answered. -/
def Answers (post : Except Exc ExecutionResult → Store → Prop)
    (answer : Option (Except Exc ExecutionResult)) (store : Store) : Prop :=
  ∀ given, answer = some given → post given store

theorem executionSystem_obeys
    (post : Except Exc ExecutionResult → Store → Prop) :
    Obeys (executionSystem settings claim kept targetId)
      (executionDiscipline claim kept targetId condition) (Answers post) where
  starts me store program _ request later _ _ := by
    cases request with
    | other program leaves =>
        apply safe_bind
        refine safe_of_keeps _ me (watched claim kept targetId) ?_ program
          leaves _ later trivial fun value last _ => nofun
        intro label choice before after same _
        have follows := follows_of_watched same
        exact ⟨trivial, guar_of_follows follows, rely_of_follows follows⟩
  children me child store _ later _ _ := by
    cases child with
    | heartbeat other execution =>
        change Safe _ me (if other = claim then
          (heartbeatLoop settings claim execution).run.bind fun _ => .ret none
          else .ret none) _ later
        split
        · apply safe_bind
          exact safe_mono _ me _ later (runs_heartbeatLoop settings execution)
            fun value last _ => nofun
        · exact nofun

theorem execution_answers {program : Py ExecutionResult}
    {post : Except Exc ExecutionResult → Store → Prop} {initial : Store}
    (safe : SafeFrom (executionDiscipline claim kept targetId condition) 0
      program.run post initial)
    {config : Config university (Option (Except Exc ExecutionResult))}
    (run : Run (executionSystem settings claim kept targetId) condition
      ⟨initial, [executing program]⟩ config)
    {given : Except Exc ExecutionResult}
    (returned : config.threads[0]? = some (.ret (some given))) :
    post given config.store := by
  have start : Disciplined
      (executionDiscipline claim kept targetId condition) (Answers post)
      ⟨initial, [executing program]⟩ := by
    refine ⟨trivial, ?_⟩
    intro thread member found
    rw [List.getElem?_singleton] at found
    split at found
    · rename_i isExecution
      subst isExecution
      cases Option.some.inj found
      intro later invariant rely
      apply safe_bind
      refine safe_mono _ 0 program.run later (safe later invariant rely) ?_
      rintro value last holds given same
      cases same
      exact holds
    · cases found
  have now := (((executionSystem_obeys post).run start run).threads 0 _
    returned).now trivial
  exact now given rfl

end System

/-- An execution of a current claim ends in the verdict on the row it claimed
and the outcome of the transcript; if there is a report already it adopts it,
whatever would generate a transcript. -/
theorem execution_settles_job (settings : Settings) (claim : ClaimedJob)
    (kept : String → Prop) (initial : Store) (job : Job)
    (found : initial.queue.jobs.find? claim.jobId = some job)
    (held : heldUnder claim job = true) (fault : Option Exc)
    (config : Config university (Option (Except Exc ExecutionResult)))
    (given : Except Exc ExecutionResult)
    (returned : config.threads[0]? = some (.ret (some given))) :
    (initial.queue.reports.find? claim.jobId = none →
      Run (executionSystem settings claim kept job.targetId)
        (Condition.allowing (Schedulable settings job.attemptCount fault))
        ⟨initial, [executing (processClaimedReport settings claim)]⟩ config →
      ∃ result, given = .ok result ∧
        (verdict settings job (transcriptOutcome fault
          (transcriptInputs job.targetId initial))).Reached claim kept initial
            job result config.store) ∧
    ∀ report generate, initial.queue.reports.find? claim.jobId = some report →
      Run (executionSystem settings claim kept job.targetId)
        (Condition.allowing (Schedulable settings job.attemptCount fault))
        ⟨initial, [executing
          (processClaimedReportWith generate settings claim)]⟩ config →
      given = .ok ⟨.job .completed, claim.jobId, some report.result⟩ ∧
        Completed claim kept job.targetId initial report config.store := by
  have beside : Beside claim kept job.targetId initial initial :=
    ⟨fun _ _ _ => rfl, rfl⟩
  constructor
  · intro unreported run
    have pending : Pending claim kept job.targetId initial job initial :=
      ⟨⟨job, found, .inl rfl⟩, unreported, beside⟩
    have settled := execution_answers (fun later _ follows =>
      executes_processClaimedReport execution_executing held
        (pending_stable job _ _ follows pending)
        fun _ _ _ _ schedulable => schedulable.schedules) run returned
    cases given with
    | ok result =>
        obtain ⟨_, rfl, reached⟩ := settled
        exact ⟨result, rfl, reached⟩
    | error exc => exact settled.elim
  · intro report generate reported run
    have start : Reported claim kept job.targetId initial report initial :=
      ⟨by rw [found]; rfl, reported, beside⟩
    have adopted := execution_answers (fun later _ follows =>
      executes_reported execution_executing
        (reported_stable report _ _ follows start)) run returned
    cases given with
    | ok result =>
        obtain ⟨rfl, completed⟩ := adopted
        exact ⟨rfl, completed⟩
    | error exc => exact adopted.elim

/-! ## A claimed job for examples -/

def claimedJob : Job where
  jobId := "job"
  jobVersion := 1
  status := .processing
  ownerId := 2
  workerToken := some "token"
  leaseUntil := some 120
  reportType := "transcript"
  targetId := 1
  attemptCount := 1
  retryAt := none
  lastError := none
  createdAt := 0
  updatedAt := 0

def sampleClaim : ClaimedJob := ⟨"job", "token", 1⟩

def claimedStore : Store :=
  { sampleStore with queue := { jobs := ⟨[claimedJob], by decide⟩ } }

def claimed : Config university (Option (Except Exc ExecutionResult)) where
  store := claimedStore
  threads := [executing (processClaimedReport .default sampleClaim)]

abbrev claimedSystem :
    System university (Option (Except Exc ExecutionResult)) :=
  executionSystem .default sampleClaim (fun _ => True) 1

def steadily (fault : Option Exc) (_ : Label) (choice : Choice) (_ : Store) :
    Bool :=
  decide (choice.call = .done) && decide (choice.fault = fault) &&
    decide (choice.now = 0)

theorem steadily_steady (fault : Option Exc) (label : Label) (choice : Choice)
    (store : Store) (steady : steadily fault label choice store = true) :
    Schedulable .default 1 fault choice := by
  simp only [steadily, Bool.and_eq_true, decide_eq_true_eq] at steady
  obtain ⟨⟨done, ends⟩, now⟩ := steady
  refine ⟨done, ends, ?_⟩
  rw [now]
  apply retryTime_representable (le_refl 1)
  unfold Representable baseDelay timedeltaOverflow datetimeOverflow
  norm_num [Settings.default]

def executed (fault : Option Exc) (threads : List Nat) :
    Config university (Option (Except Exc ExecutionResult)) :=
  claimed.played claimedSystem (steadily fault)
    (threads.map fun thread => ⟨thread, { fault := fault }⟩)

def returnOf : Prog university (Option (Except Exc ExecutionResult)) →
    Option (Except Exc ExecutionResult)
  | .ret answer => answer
  | _ => none

theorem returnOf_some
    {config : Config university (Option (Except Exc ExecutionResult))}
    {given : Except Exc ExecutionResult}
    (answers : config.threads[0]?.bind returnOf = some given) :
    config.threads[0]? = some (.ret (some given)) := by
  obtain ⟨program, found, answered⟩ := Option.bind_eq_some_iff.mp answers
  rw [found]
  unfold returnOf at answered
  split at answered
  · rw [answered]
  · cases answered

theorem executed_run (fault : Option Exc) (threads : List Nat)
    (possible : (claimed.play claimedSystem (steadily fault)
      (threads.map fun thread => ⟨thread, { fault := fault }⟩)).isSome =
        true) :
    Run claimedSystem (Condition.allowing (Schedulable .default 1 fault)) claimed
      (executed fault threads) :=
  Config.played_run _ (steadily fault) _ (steadily_steady fault) _ claimed
    possible

/-- The lease is renewed while the transcript is generated, and the next
heartbeat comes too late. -/
def beating : List Nat :=
  [0, 0, 0, 0, 1, 1, 1, 0, 1, 1, 1, 2, 2] ++ List.replicate 9 0 ++ [2, 2, 2]

theorem execution_settles_job_beating :
    Completed sampleClaim (fun _ => True) 1 claimedStore
      ⟨"job", transcriptOf sampleStudent []⟩ (executed none beating).store := by
  have returned : (executed none beating).threads[0]?.bind returnOf =
      some (.ok ⟨.job .completed, "job",
        some (transcriptOf sampleStudent [])⟩) := by
    decide +kernel
  obtain ⟨result, _, reached⟩ := (execution_settles_job .default sampleClaim
    (fun _ => True) claimedStore claimedJob rfl rfl none
    (executed none beating) _ (returnOf_some returned)).1 rfl
      (executed_run none beating (by decide +kernel))
  exact reached.2

/-- An execution of this claim has returned. -/
structure Returned (settings : Settings) (claim : ClaimedJob)
    (kept : String → Prop) (initial : Store) (job : Job) (fault : Option Exc)
    (config : Config university (Option (Except Exc ExecutionResult))) :
    Prop where
  found : initial.queue.jobs.find? claim.jobId = some job
  held : heldUnder claim job = true
  unreported : initial.queue.reports.find? claim.jobId = none
  run : Run (executionSystem settings claim kept job.targetId)
    (Condition.allowing (Schedulable settings job.attemptCount fault))
    ⟨initial, [executing (processClaimedReport settings claim)]⟩ config
  returned : ∃ given, config.threads[0]? = some (.ret (some given))

def lost : Exc := .leaseLostError "job"

def permanent : Exc := .permanentJobError "job"

/-- The execution alone, raising this exception instead of a transcript. -/
def raising (exc : Exc) (count : Nat) :
    Config university (Option (Except Exc ExecutionResult)) :=
  executed (some exc) (List.replicate count 0)

theorem lost_returned : Returned .default sampleClaim (fun _ => True)
    claimedStore claimedJob (some lost) (raising lost 10) := by
  have answers : (raising lost 10).threads[0]?.bind returnOf =
      some (.ok ⟨.alreadyProcessing, "job", none⟩) := by
    decide +kernel
  exact ⟨rfl, rfl, rfl, executed_run _ _ (by decide +kernel),
    _, returnOf_some answers⟩

theorem permanent_returned : Returned .default sampleClaim (fun _ => True)
    claimedStore claimedJob (some permanent) (raising permanent 12) := by
  have answers : (raising permanent 12).threads[0]?.bind returnOf =
      some (.ok ⟨.job .failed, "job", none⟩) := by
    decide +kernel
  exact ⟨rfl, rfl, rfl, executed_run _ _ (by decide +kernel),
    _, returnOf_some answers⟩

/-- The worker's own exceptions are not taken for transient failures. -/
theorem own_exceptions_are_not_retried :
    (¬ ∀ (settings : Settings) (claim : ClaimedJob) (kept : String → Prop)
      (initial : Store) (job : Job) (fault : Option Exc) config,
      Returned settings claim kept initial job fault config →
      ∃ row, config.store.queue.jobs.find? claim.jobId = some row ∧
        row.status ≠ .processing) ∧
    ¬ ∀ (settings : Settings) (claim : ClaimedJob) (kept : String → Prop)
      (initial : Store) (job : Job) (fault : Option Exc) config,
      Returned settings claim kept initial job fault config →
      job.attemptCount < settings.jobMaxAttempts →
      ∀ row, config.store.queue.jobs.find? claim.jobId = some row →
        row.status = .failed → job.reportType ≠ "transcript" ∨
          (initial.db.tables.students.find? job.targetId).isNone = true := by
  constructor
  · intro settles
    obtain ⟨row, found, status⟩ := settles _ _ _ _ _ _ _ lost_returned
    have remains : (raising lost 10).store.queue.jobs.find? "job" =
        some claimedJob := by
      decide +kernel
    cases remains.symm.trans found
    exact status rfl
  · intro retries
    have fails : ((raising permanent 12).store.queue.jobs.find? "job").any
        (fun row => decide (row.status = .failed)) = true := by
      decide +kernel
    obtain ⟨row, found, failed⟩ := (Option.any_eq_true _ _).mp fails
    have excused := retries _ _ _ _ _ _ _ permanent_returned (by decide) row
      found (of_decide_eq_true failed)
    exact absurd excused (by decide)

end SystemUni.Workers.Settlement
