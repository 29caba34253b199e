import SystemUni.Interleaving.Progress
import SystemUni.Workers.Claiming
import SystemUni.Workers.Settlement
import SystemUni.Workers.Provenance

/-!
# Draining the queue

A job that is queued or processing is open.  A turn of a worker that finds an
eligible job settles it or uses up one of its attempts, so a worker is done
after a number of turns that is known in advance; and from every configuration
of the application the whole queue can be settled.
-/

set_option autoImplicit false

namespace SystemUni.Workers.Draining

open Interleaving Relational
open SystemUni.Runtime.Errors
open SystemUni.Runtime.Statements
open SystemUni.Runtime.Rules
open SystemUni.Models.Rows
open SystemUni.Models.Jobs
open SystemUni.Workers.Tasks
open SystemUni.Workers.Runner
open SystemUni.Workers.Queue
open SystemUni.Workers.Frame
open SystemUni.Workers.Claiming
open SystemUni.Workers.Heartbeats
open SystemUni.Workers.Backoff
open SystemUni.Workers.Overflow
open SystemUni.Workers.Settlement hiding Beside
open SystemUni.Routers.Reports
open SystemUni.Runtime.External
open SystemUni.Routers.Api
open SystemUni.Application

/-! ## Open jobs -/

def Open (job : Job) : Prop :=
  job.status = .queued ∨ job.status = .processing

instance (job : Job) : Decidable (Open job) :=
  inferInstanceAs (Decidable (_ ∨ _))

theorem Eligible.isOpen {now : Time} {job : Job}
    (eligible : Eligible now job) : Open job :=
  eligible.imp And.left And.left

theorem Eligible.later {since now : Time} {job : Job}
    (eligible : Eligible since job) (passed : since ≤ now) :
    Eligible now job := by
  rcases eligible with ⟨queued, waited⟩ | ⟨processing, ended⟩
  · exact .inl ⟨queued, fun retryAt isRetry =>
      (waited retryAt isRetry).trans passed⟩
  · exact .inr ⟨processing, fun leaseUntil isLease =>
      (ended leaseUntil isLease).trans_le passed⟩

theorem Open.eligible {job : Job} (isOpen : Open job) :
    ∃ since, Eligible since job := by
  rcases isOpen with queued | processing
  · cases retry : job.retryAt with
    | none => exact ⟨0, .inl ⟨queued, fun _ absurd => by
        rw [retry] at absurd
        cases absurd⟩⟩
    | some retryAt =>
        refine ⟨retryAt, .inl ⟨queued, ?_⟩⟩
        intro other isOther
        rw [retry] at isOther
        cases isOther
        exact le_refl retryAt
  · cases lease : job.leaseUntil with
    | none => exact ⟨0, .inr ⟨processing, fun _ absurd => by
        rw [lease] at absurd
        cases absurd⟩⟩
    | some leaseUntil =>
        refine ⟨leaseUntil + 1, .inr ⟨processing, ?_⟩⟩
        intro other isOther
        rw [lease] at isOther
        cases isOther
        exact lt_add_one leaseUntil

/-- How often the job can still be claimed before it is settled. -/
def remaining (settings : Settings) (job : Job) : Nat :=
  if Open job then max 1 (settings.jobMaxAttempts - job.attemptCount) else 0

def workload (settings : Settings) (queue : Queue) : Nat :=
  (queue.jobs.rows.map (remaining settings)).sum

theorem remaining_eq_zero {settings : Settings} {job : Job} :
    remaining settings job = 0 ↔ ¬ Open job := by
  unfold remaining
  split
  · rename_i isOpen
    simp only [isOpen, not_true_eq_false, iff_false]
    omega
  · rename_i settled
    simp [settled]

theorem workload_eq_zero {settings : Settings} {queue : Queue} :
    workload settings queue = 0 ↔ ∀ job ∈ queue.jobs.rows, ¬ Open job := by
  simp [workload, List.sum_eq_zero_iff, remaining_eq_zero]

/-! ## What an execution makes of its job -/

/-- There is a report, or one can be made. -/
def Feasible (store : Store) (job : Job) : Prop :=
  (store.queue.reports.find? job.jobId).isSome = true ∨
    job.reportType = "transcript" ∧
      (store.db.tables.students.find? job.targetId).isSome = true

/-- The job after an execution; `faulty` says whether generating a transcript
may raise an exception. -/
inductive Ends (settings : Settings) (faulty feasible : Prop)
    (attempts : Nat) (job : Job) : Prop where
  | completed (status : job.status = .completed) (possible : feasible)
  | failed (status : job.status = .failed) (cause : feasible → faulty)
  | retried (status : job.status = .queued)
      (counted : job.attemptCount = attempts)
      (left : attempts < settings.jobMaxAttempts) (cause : faulty)

/-- The job has reached such a row, and the others are as they were. -/
structure Reaches (jobId : String) (ends : Job → Prop) (before : Queue)
    (later : Store) : Prop where
  row : ∃ last, later.queue.jobs.find? jobId = some last ∧ ends last
  others : ∀ other, other ≠ jobId →
    rowsOf later.queue other = rowsOf before other

/-! ## A turn that is attended to -/

/-- Every call succeeds, no job is locked by others, it is late enough, and an
exception of the computation can be followed by a retry. -/
structure Attends (settings : Settings) (since : Time) (faulty : Prop)
    (choice : Choice) : Prop where
  done : choice.call = .done
  unlocked : choice.lockedJobs = []
  passed : since ≤ choice.now
  faults : ∀ exc, choice.fault = some exc →
    faulty ∧ ∀ jobId, exc ≠ .leaseLostError jobId
  schedules : faulty → ∀ attemptCount jitter, 1 ≤ attemptCount →
    attemptCount < settings.jobMaxAttempts →
      ∃ retryAt, retryTime settings attemptCount jitter choice.now =
        .ok retryAt

instance (settings : Settings) (since : Time) (faulty : Prop) :
    Answered (Attends settings since faulty) := ⟨fun _ => Attends.done⟩

section Turn

variable {settings : Settings} {since : Time} {faulty : Prop} {me : Nat}
  {store : Store} {claim : ClaimedJob} {row : Job}

/-- The program finishes under such choices without an exception. -/
abbrev Manages {α : Type} (settings : Settings) (since : Time)
    (faulty : Prop) (me : Nat) (program : Py α) (post : α → Store → Prop)
    (store : Store) : Prop :=
  Finishes (Attends settings since faulty) me program post
    (fun _ _ => False) store

theorem manages_bind {α β : Type} {program : Py α} {rest : α → Py β}
    {middle : α → Store → Prop} {post : β → Store → Prop}
    (first : Manages settings since faulty me program middle store)
    (second : ∀ value later, middle value later →
      Manages settings since faulty me (rest value) post later) :
    Manages settings since faulty me (program >>= rest) post store :=
  finishes_bind (finishes_mono first second fun _ _ raised => raised)

theorem manages_claimNextJob {job : Job}
    (member : job ∈ store.queue.jobs.rows) (eligible : Eligible since job) :
    Manages settings since faulty me (claimNextJob settings)
      (fun claimed later => ∃ taken ∈ store.queue.jobs.rows, Open taken ∧
        ∃ now workerToken,
          claimed = some ⟨taken.jobId, workerToken, taken.jobVersion + 1⟩ ∧
          later = { store with
            queue := claimJob settings now
              ⟨taken.jobId, workerToken, taken.jobVersion + 1⟩ store.queue })
      store := by
  refine finishes_bind (finishes_command fun clock attends => ?_)
  refine finishes_bind (finishes_command fun draw _ => ?_)
  refine finishes_transaction ?_ ?_
  · intro choice claimed next attended body
    rw [attended.unlocked] at body
    obtain ⟨taken, found, _⟩ :=
      candidate_least member (Eligible.later eligible attends.passed)
    rw [found] at body
    cases body
    obtain ⟨takenMember, takenEligible⟩ := candidate_eligible found
    exact ⟨taken, takenMember, Eligible.isOpen takenEligible, clock.now,
      draw.uuid, rfl, rfl⟩
  · intro choice exc _ body
    split at body
    · cases body
    · cases body

/-- No call fails, so the first attempt is the only one. -/
theorem manages_claimWithRetry {post : Option ClaimedJob → Store → Prop}
    {remaining : Nat} (positive : 0 < remaining)
    (claims : Manages settings since faulty me (claimNextJob settings) post
      store) :
    Manages settings since faulty me (claimWithRetry settings remaining) post
      store := by
  obtain ⟨attempts, rfl⟩ := Nat.exists_eq_succ_of_ne_zero positive.ne'
  exact finishes_tryCatch
    (finishes_mono claims (fun _ _ holds => holds) fun _ _ absurd =>
      absurd.elim)

/-! ### The execution -/

/-- How the computation of the transcript may end. -/
def Faulty (faulty : Prop) (fault : Option Exc) : Prop :=
  ∀ exc, fault = some exc → faulty ∧ ∀ jobId, exc ≠ .leaseLostError jobId

/-- Nobody else moves, so everything is steady. -/
theorem attends_executing {kept : String → Prop} {targetId : Id} :
    Executing (Logic.alone (Attends settings since faulty) me Exc) me claim
      kept targetId (Attends settings since faulty) (Faulty faulty)
      fun _ => True where
  ends _ attends := attends.faults
  possible := ⟨none, nofun⟩
  stable _ := trivial
  quiet _ _ := trivial
  query _ here returns := finishes_query (returns _ here)
  acts _ here returns := finishes_command fun choice attends =>
    returns choice _ attends (here choice).2
  write _ commits _ here returns := by
    refine finishes_transaction ?_ ?_
    · intro choice written after _ result
      rw [commits] at result
      cases result
      exact returns _ here
    · intro choice exc _ refused
      rw [commits] at refused
      cases refused
  starts _ here returns := returns _ here

/-- Every job is kept, so only the one of the claim has changed. -/
theorem reaches_of_stored {targetId : Id} {last : Job}
    {report : Option Report} {ends : Job → Prop} {later : Store}
    (stored : Stored claim (fun _ => True) targetId store last report later)
    (holds : ends last) : Reaches claim.jobId ends store.queue later where
  row := ⟨last, stored.row, holds⟩
  others other different := stored.beside.others other trivial different

theorem reaches_of_completed {targetId : Id} {report : Report}
    {feasible : Prop} {attempts : Nat} {later : Store}
    (completed : Completed claim (fun _ => True) targetId store report later)
    (possible : feasible) :
    Reaches claim.jobId (Ends settings faulty feasible attempts) store.queue
      later := by
  obtain ⟨last, status, stored⟩ := completed
  exact reaches_of_stored stored (.completed status possible)

theorem reaches_of_failed {targetId : Id} {error : Exc} {feasible : Prop}
    {later : Store}
    (recorded : Recorded claim (fun _ => True) targetId store row error true
      later) (cause : feasible → faulty) :
    Reaches claim.jobId (Ends settings faulty feasible row.attemptCount)
      store.queue later := by
  obtain ⟨last, status, _, _, _, stored⟩ := recorded
  exact reaches_of_stored stored (.failed status cause)

theorem reaches_of_verdict {fault : Option Exc} {result : ExecutionResult}
    {later : Store} (isJob : row.jobId = claim.jobId)
    (unreported : store.queue.reports.find? claim.jobId = none)
    (possible : Faulty faulty fault)
    (reached : (verdict settings row (transcriptOutcome fault
      (transcriptInputs row.targetId store))).Reached claim (fun _ => True)
        store row result later) :
    Reaches claim.jobId
      (Ends settings faulty (Feasible store row) row.attemptCount)
      store.queue later := by
  have feasible : Feasible store row ↔ row.reportType = "transcript" ∧
      (store.db.tables.students.find? row.targetId).isSome = true := by
    simp [Feasible, isJob, unreported]
  unfold verdict at reached
  by_cases unsupported : row.reportType ≠ "transcript"
  · rw [if_pos unsupported] at reached
    refine reaches_of_failed reached.2 fun possibly => ?_
    exact absurd (feasible.mp possibly).1 unsupported
  rw [if_neg unsupported] at reached
  cases found : store.db.tables.students.find? row.targetId with
  | none =>
      simp only [transcriptOutcome, transcriptInputs, found] at reached
      refine reaches_of_failed reached.2 fun possibly => ?_
      rw [found] at feasible
      cases (feasible.mp possibly).2
  | some student =>
      simp only [transcriptOutcome, transcriptInputs, found] at reached
      cases fault with
      | none =>
          refine reaches_of_completed reached.2 (feasible.mpr ?_)
          exact ⟨not_not.mp unsupported, by rw [found]; rfl⟩
      | some exc =>
          obtain ⟨fault, own⟩ := possible exc rfl
          have again (outcome : (if settings.jobMaxAttempts ≤ row.attemptCount
              then Verdict.failed exc else .retried exc).Reached claim
                (fun _ => True) store row result later) :
              Reaches claim.jobId (Ends settings faulty (Feasible store row)
                row.attemptCount) store.queue later := by
            by_cases exhausted : settings.jobMaxAttempts ≤ row.attemptCount
            · rw [if_pos exhausted] at outcome
              exact reaches_of_failed outcome.2 fun _ => fault
            · rw [if_neg exhausted] at outcome
              obtain ⟨_, last, status, counted, _, _, stored⟩ := outcome
              exact reaches_of_stored stored
                (.retried status counted (not_le.mp exhausted) fault)
          cases exc with
          | permanentJobError message =>
              exact reaches_of_failed reached.2 fun _ => fault
          | leaseLostError jobId => exact absurd rfl (own jobId)
          | sql kind text => exact again reached
          | httpException statusCode detail => exact again reached
          | overflowError => exact again reached
          | other name text => exact again reached

theorem manages_processClaimedReport
    (found : store.queue.jobs.find? claim.jobId = some row)
    (held : heldUnder claim row = true) (claimed : 1 ≤ row.attemptCount) :
    Manages settings since faulty me (processClaimedReport settings claim)
      (fun _ later => Reaches claim.jobId
        (Ends settings faulty (Feasible store row) row.attemptCount)
        store.queue later) store := by
  have isJob := Table.key_of_find? found
  have beside : Settlement.Beside claim (fun _ => True) row.targetId store
      store := ⟨fun _ _ _ => rfl, rfl⟩
  cases reported : store.queue.reports.find? claim.jobId with
  | some report =>
      refine finishes_mono (executes_reported attends_executing
        ⟨by rw [found]; rfl, reported, beside⟩) ?_ fun _ _ raised => raised
      rintro result later ⟨_, completed⟩
      refine reaches_of_completed completed (.inl ?_)
      rw [isJob, reported]
      rfl
  | none =>
      have schedules : ∀ exc, Faulty faulty (some exc) →
          row.attemptCount < settings.jobMaxAttempts → ∀ choice,
            Attends settings since faulty choice → ∀ jitter, ∃ retryAt,
              retryTime settings row.attemptCount jitter choice.now =
                .ok retryAt :=
        fun exc possible left choice attends jitter =>
          attends.schedules (possible exc rfl).1 _ jitter claimed left
      refine finishes_mono (executes_processClaimedReport attends_executing
        held ⟨⟨row, found, .inl rfl⟩, reported, beside⟩ schedules) ?_
        fun _ _ raised => raised
      rintro result later ⟨fault, possible, reached⟩
      exact reaches_of_verdict isJob reported possible reached

/-! ### The turn -/

theorem manages_runOnce {job : Job} (member : job ∈ store.queue.jobs.rows)
    (eligible : Eligible since job) :
    Manages settings since faulty me (runOnce settings)
      (fun _ later => ∃ taken ∈ store.queue.jobs.rows, Open taken ∧
        Reaches taken.jobId
          (Ends settings faulty (Feasible store taken)
            (taken.attemptCount + 1)) store.queue later) store := by
  refine manages_bind (manages_claimWithRetry settings.workerRetryBound
    (manages_claimNextJob member eligible)) ?_
  rintro claimed later ⟨taken, takenMember, isOpen, now, workerToken, rfl, rfl⟩
  have found := Table.find?_of_mem takenMember
  have claimedRow : (claimJob settings now
      ⟨taken.jobId, workerToken, taken.jobVersion + 1⟩ store.queue).jobs.find?
        taken.jobId = some (claimValues settings now workerToken taken) := by
    simp [claimJob, Table.find?_updateWhere, found]
  have held : heldUnder ⟨taken.jobId, workerToken, taken.jobVersion + 1⟩
      (claimValues settings now workerToken taken) = true :=
    heldUnder_iff.mpr ⟨rfl, rfl, rfl, rfl⟩
  refine manages_bind (manages_processClaimedReport claimedRow held
    (Nat.le_add_left 1 _)) ?_
  intro result last reaches
  refine finishes_pure _ ⟨taken, takenMember, isOpen, reaches.row, ?_⟩
  intro other different
  refine (reaches.others other different).trans (Prod.ext ?_ rfl)
  exact Table.find?_updateWhere_other _ _ (claimValues_jobId _ _ _) different

end Turn

/-! ## The work that is left -/

section Workload

variable {settings : Settings} {queue : Queue} {later : Store}

def remainingOf (settings : Settings) (queue : Queue) (jobId : String) : Nat :=
  ((queue.jobs.find? jobId).map (remaining settings)).getD 0

theorem workload_eq (settings : Settings) (queue : Queue) :
    workload settings queue = ((queue.jobs.rows.map Job.jobId).map
      (remainingOf settings queue)).sum := by
  unfold workload
  rw [List.map_map]
  congr 1
  apply List.map_congr_left
  intro job member
  simp [remainingOf, Table.find?_of_mem member]

theorem mem_jobIds {jobId : String} :
    jobId ∈ queue.jobs.rows.map Job.jobId ↔
      (queue.jobs.find? jobId).isSome = true := by
  rw [List.mem_map, Option.isSome_iff_exists]
  constructor
  · rintro ⟨job, member, rfl⟩
    exact ⟨job, Table.find?_of_mem member⟩
  · rintro ⟨job, found⟩
    exact ⟨job, Table.find?_eq_some_iff.mp found⟩

theorem Reaches.jobIds {jobId : String} {ends : Job → Prop} {job : Job}
    (reaches : Reaches jobId ends queue later)
    (found : queue.jobs.find? jobId = some job) :
    (later.queue.jobs.rows.map Job.jobId).Perm
      (queue.jobs.rows.map Job.jobId) := by
  refine (List.perm_ext_iff_of_nodup later.queue.jobs.nodup
    queue.jobs.nodup).mpr ?_
  intro other
  rw [mem_jobIds, mem_jobIds]
  by_cases same : other = jobId
  · obtain ⟨last, isLast, _⟩ := reaches.row
    rw [same, isLast, found]
    simp
  · have rows := congrArg Prod.fst (reaches.others other same)
    simp only [rowsOf] at rows
    rw [rows]

theorem Ends.remaining_lt {faulty feasible : Prop} {job last : Job}
    (isOpen : Open job)
    (ends : Ends settings faulty feasible (job.attemptCount + 1) last) :
    remaining settings last < remaining settings job := by
  have positive : remaining settings job =
      max 1 (settings.jobMaxAttempts - job.attemptCount) := if_pos isOpen
  cases ends with
  | completed status possible =>
      have settled : remaining settings last = 0 := by
        rw [remaining_eq_zero]
        simp [Open, status]
      omega
  | failed status cause =>
      have settled : remaining settings last = 0 := by
        rw [remaining_eq_zero]
        simp [Open, status]
      omega
  | retried status counted left cause =>
      have still : remaining settings last =
          max 1 (settings.jobMaxAttempts - last.attemptCount) :=
        if_pos (.inl status)
      omega

/-- A turn that takes an open job leaves less work. -/
theorem Reaches.workload_lt {faulty feasible : Prop} {job : Job}
    (member : job ∈ queue.jobs.rows) (isOpen : Open job)
    (reaches : Reaches job.jobId
      (Ends settings faulty feasible (job.attemptCount + 1)) queue later) :
    workload settings later.queue < workload settings queue := by
  have found := Table.find?_of_mem member
  obtain ⟨last, isLast, ends⟩ := reaches.row
  have smaller : remainingOf settings later.queue job.jobId <
      remainingOf settings queue job.jobId := by
    simpa [remainingOf, isLast, found] using Ends.remaining_lt isOpen ends
  rw [workload_eq, workload_eq, ((reaches.jobIds found).map _).sum_eq]
  apply List.sum_lt_sum
  · intro jobId _
    by_cases same : jobId = job.jobId
    · rw [same]
      exact smaller.le
    · have rows := congrArg Prod.fst (reaches.others jobId same)
      simp only [rowsOf] at rows
      simp [remainingOf, rows]
  · exact ⟨job.jobId, List.mem_map_of_mem member, smaller⟩

end Workload

/-! ## Turns one after the other -/

abbrev attended (settings : Settings) (since : Time) : Condition university :=
  Condition.allowing (Attends settings since True)

/-- Each turn comes when there is an eligible job; generating a transcript may
raise any exception but the worker's own signal that its lease is lost.  The
heartbeat that a turn forks is never scheduled: it could only renew the lease
of its job. -/
inductive Turns (settings : Settings) : Nat → Store → Store → Prop where
  | none (store : Store) : Turns settings 0 store store
  | turn (me : Nat) (since : Time) {count : Nat} {first middle last : Store}
      {answer : Except Exc (Option (ClaimedJob × ExecutionResult))} {job : Job}
      (member : job ∈ first.queue.jobs.rows) (eligible : Eligible since job)
      (runs : Evaluates (attended settings since) me (runOnce settings).run
        first answer middle)
      (others : Turns settings count middle last) :
      Turns settings (count + 1) first last

theorem turn_progresses {settings : Settings} {since : Time} {me : Nat}
    {first middle : Store}
    {answer : Except Exc (Option (ClaimedJob × ExecutionResult))} {job : Job}
    (member : job ∈ first.queue.jobs.rows) (eligible : Eligible since job)
    (runs : Evaluates (attended settings since) me (runOnce settings).run
      first answer middle) :
    workload settings middle.queue < workload settings first.queue ∧
      ∀ settled ∈ first.queue.jobs.rows, ¬ Open settled →
        settled ∈ middle.queue.jobs.rows := by
  have holds := runs.ensured
    (yields_of_finishes (manages_runOnce member eligible))
  cases answer with
  | error exc => exact holds.elim
  | ok done =>
      obtain ⟨taken, takenMember, isOpen, reaches⟩ := holds
      refine ⟨reaches.workload_lt takenMember isOpen, ?_⟩
      intro settled settledMember closed
      have different : settled.jobId ≠ taken.jobId := by
        intro same
        have isTaken := first.queue.jobs.eq_of_key_eq settledMember
          takenMember same
        exact closed (isTaken ▸ isOpen)
      have rows := congrArg Prod.fst (reaches.others _ different)
      simp only [rowsOf, Table.find?_of_mem settledMember] at rows
      exact Table.mem_of_find? rows

theorem tables_beside : Beside fun store : Store => store.db.tables :=
  ⟨fun _ _ _ => rfl, fun _ _ _ => rfl⟩

/-- Workers need no more turns than the open jobs have attempts left, and no
job that is settled is touched. -/
theorem turns_settle_all_jobs {settings : Settings} {count : Nat}
    {first last : Store} (turns : Turns settings count first last) :
    count + workload settings last.queue ≤ workload settings first.queue ∧
      (count = workload settings first.queue →
        ∀ job ∈ last.queue.jobs.rows, ¬ Open job) ∧
      (∀ job ∈ first.queue.jobs.rows, ¬ Open job →
        job ∈ last.queue.jobs.rows) ∧
      last.db.tables = first.db.tables := by
  have bound : count + workload settings last.queue ≤
      workload settings first.queue := by
    induction turns with
    | none store => simp
    | turn me since member eligible runs _ inductionHypothesis =>
        have less := (turn_progresses member eligible runs).1
        omega
  refine ⟨bound, ?_, ?_, ?_⟩
  · intro all
    have done : workload settings last.queue = 0 := by omega
    exact workload_eq_zero.mp done
  · clear bound
    induction turns with
    | none store => exact fun job member _ => member
    | turn me since member eligible runs _ inductionHypothesis =>
        intro job jobMember settled
        exact inductionHypothesis job
          ((turn_progresses member eligible runs).2 job jobMember settled)
          settled
  · clear bound
    induction turns with
    | none store => rfl
    | turn me since member eligible runs _ inductionHypothesis =>
        exact inductionHypothesis.trans (runs.ensured
          (ensures_of_keeps _ (leaves_runOnce tables_beside settings) _))

/-- A transcript has been asked for. -/
def waitingStore : Store :=
  { linkedStore with queue := { jobs := ⟨[newJob "job" 2 1 0], by decide⟩ } }

/-- The computation raises an exception. -/
def stumbling : Choice := { fault := some (.other "RuntimeError" "") }

theorem attends_stumbling : Attends .default 0 True stumbling where
  done := rfl
  unlocked := rfl
  passed := le_refl _
  faults exc raised := by
    cases raised
    exact ⟨trivial, nofun⟩
  schedules _ attemptCount jitter claimed left := by
    have few : attemptCount = 1 ∨ attemptCount = 2 := by
      change attemptCount < 3 at left
      omega
    apply retryTime_representable claimed
    unfold Representable baseDelay timedeltaOverflow datetimeOverflow
    rcases few with rfl | rfl
    · norm_num [Settings.default, stumbling]
    · norm_num [Settings.default, stumbling]

def retriedStore : Store :=
  (runOnce .default).run.settled 0 (fun _ => stumbling) waitingStore

theorem turns_settle_all_jobs_stumbling :
    1 + workload .default retriedStore.queue ≤
      workload .default waitingStore.queue := by
  obtain ⟨answer, runs⟩ := evaluates_settled (attended .default 0) 0
    (runOnce .default).run (fun _ => stumbling) waitingStore
    (fun _ _ _ => attends_stumbling) (by decide +kernel)
  have eligible : Eligible 0 (newJob "job" 2 1 0) :=
    .inl ⟨rfl, fun _ absurd => by cases absurd⟩
  exact (turns_settle_all_jobs (.turn 0 0 (List.mem_singleton_self _) eligible
    runs (.none retriedStore))).1

/-! ## From every configuration -/

/-- Completed if it could be, failed otherwise. -/
def SettledAs (feasible : Prop) (job : Job) : Prop :=
  (feasible ∧ job.status = .completed) ∨ (¬ feasible ∧ job.status = .failed)

theorem Ends.settledAs {settings : Settings} {feasible : Prop}
    {attempts : Nat} {job : Job}
    (ends : Ends settings False feasible attempts job) :
    SettledAs feasible job := by
  cases ends with
  | completed status possible => exact .inl ⟨possible, status⟩
  | failed status cause => exact .inr ⟨cause, status⟩
  | retried status counted left cause => exact cause.elim

/-- Where the queue stands after some of its open jobs have been settled, each
as it could be in the first store. -/
structure Advanced (first later : Store) : Prop where
  tables : later.db.tables = first.db.tables
  jobs : ∀ jobId, rowsOf later.queue jobId = rowsOf first.queue jobId ∨
    ∃ job last, first.queue.jobs.find? jobId = some job ∧ Open job ∧
      later.queue.jobs.find? jobId = some last ∧
      SettledAs (Feasible first job) last

theorem Advanced.refl (store : Store) : Advanced store store :=
  ⟨rfl, fun _ => .inl rfl⟩

theorem SettledAs.not_open {feasible : Prop} {job : Job}
    (settled : SettledAs feasible job) : ¬ Open job := by
  rcases settled with ⟨_, status⟩ | ⟨_, status⟩
  · simp [Open, status]
  · simp [Open, status]

theorem Advanced.settle {first middle last : Store} {settings : Settings}
    {attempts : Nat} {job : Job} (advanced : Advanced first middle)
    (member : job ∈ middle.queue.jobs.rows) (isOpen : Open job)
    (reaches : Reaches job.jobId
      (Ends settings False (Feasible middle job) attempts) middle.queue last)
    (tables : last.db.tables = middle.db.tables) : Advanced first last where
  tables := tables.trans advanced.tables
  jobs jobId := by
    by_cases same : jobId = job.jobId
    · rcases advanced.jobs job.jobId with
        untouched | ⟨_, other, _, _, found, settled⟩
      · have jobs := congrArg Prod.fst untouched
        have reports := congrArg Prod.snd untouched
        simp only [rowsOf] at jobs reports
        rw [Table.find?_of_mem member] at jobs
        obtain ⟨row, isRow, ends⟩ := reaches.row
        have asBefore : Feasible middle job ↔ Feasible first job := by
          unfold Feasible
          rw [reports, advanced.tables]
        rw [same]
        refine .inr ⟨job, row, jobs.symm, isOpen, isRow, ?_⟩
        have settled := ends.settledAs
        unfold SettledAs at settled ⊢
        rwa [asBefore] at settled
      · rw [Table.find?_of_mem member] at found
        cases found
        exact absurd isOpen settled.not_open
    · have others := reaches.others jobId same
      rcases advanced.jobs jobId with
        untouched | ⟨row, other, found, wasOpen, isOther, settled⟩
      · exact .inl (others.trans untouched)
      · have jobs := congrArg Prod.fst others
        simp only [rowsOf] at jobs
        exact .inr ⟨row, other, found, wasOpen, jobs.trans isOther, settled⟩

/-- Choices without exceptions are there at any time. -/
theorem attends_unfailing (settings : Settings) (since : Time) :
    Attends settings since False { now := since } where
  done := rfl
  unlocked := rfl
  passed := le_refl since
  faults := nofun
  schedules := nofun

/-- One more turn, in any configuration of the application. -/
theorem advances {libraries : Libraries} {settings : Settings} {first : Store}
    {config : Config university (Except Exc Unit)}
    (advanced : Advanced first config.store)
    (work : 0 < workload settings config.store.queue) :
    ∃ next, Run (application libraries settings) anything config next ∧
      Advanced first next.store ∧
      workload settings next.store.queue <
        workload settings config.store.queue := by
  have someOpen : ∃ job ∈ config.store.queue.jobs.rows, Open job := by
    by_contra none
    push Not at none
    have done : workload settings config.store.queue = 0 :=
      workload_eq_zero.mpr none
    omega
  obtain ⟨job, member, isOpen⟩ := someOpen
  obtain ⟨since, eligible⟩ := Open.eligible isOpen
  have silently : Manages settings since False config.threads.length
      (silent (runOnce settings))
      (fun _ later => Advanced first later ∧
        workload settings later.queue <
          workload settings config.store.queue) config.store := by
    refine finishes_bind (finishes_mono (finishes_keeps
      (leaves_runOnce tables_beside settings)
      (manages_runOnce member eligible)) ?_ fun _ _ absurd => absurd.1)
    rintro done later ⟨⟨taken, takenMember, takenOpen, reaches⟩, tables⟩
    exact finishes_pure _ ⟨advanced.settle takenMember takenOpen reaches
      tables, reaches.workload_lt takenMember takenOpen⟩
  have startable : (application libraries settings).start config.store
      (silent (runOnce settings)).run := .runOnce
  obtain ⟨next, run, value, holds⟩ := alone_arrives anything
    (attends_unfailing settings since) (fun _ _ => trivial) _ config startable
    silently
  refine ⟨next, run, ?_⟩
  cases value with
  | ok done => exact holds
  | error exc => exact holds.elim

/-- From every reachable configuration of the application, whatever has
happened and whoever has crashed, the queue can be settled: each open job whose
student still exists is completed, each other open job fails, and what was
settled before stays. -/
theorem queue_can_drain (libraries : Libraries) (settings : Settings)
    (initial : Store) (empty : initial.queue = {})
    (config : Config university (Except Exc Unit))
    (reachable : Reachable (application libraries settings) anything initial
      config) :
    ∃ final, Run (application libraries settings) anything config final ∧
      final.store.db.tables = config.store.db.tables ∧
      (∀ job ∈ config.store.queue.jobs.rows,
        ∃ last ∈ final.store.queue.jobs.rows, last.jobId = job.jobId ∧
          (Open job → SettledAs (Feasible config.store job) last) ∧
          (¬ Open job → last = job)) ∧
      ∀ last ∈ final.store.queue.jobs.rows,
        (last.status = .completed ∧
            (final.store.queue.reports.find? last.jobId).isSome = true ∨
          last.status = .failed ∧ last.lastError ≠ none ∧
            final.store.queue.reports.find? last.jobId = none) ∧
        config.store.queue.jobs.HasKey last.jobId := by
  obtain ⟨final, run, advanced, exhausted⟩ := Run.exhausts
    (fun reached : Config university (Except Exc Unit) =>
      workload settings reached.store.queue)
    (fun reached => Advanced config.store reached.store)
    (fun reached here work => advances here work) config
    (Advanced.refl config.store)
  have settled := workload_eq_zero.mp exhausted
  have wellFormed : WellFormed final.store.queue := by
    have seen : Reachable (application libraries settings)
        (Provenance.watched fun _ _ => True) initial final :=
      (reachable.trans run).weaken fun _ _ _ _ _ _ => trivial
    exact (Provenance.run_sound empty seen).wellFormed
  refine ⟨final, run, advanced.tables, ?_, ?_⟩
  · intro job member
    have found := Table.find?_of_mem member
    rcases advanced.jobs job.jobId with
      untouched | ⟨_, last, isJob, isOpen, isLast, asPossible⟩
    · have rows := congrArg Prod.fst untouched
      simp only [rowsOf, found] at rows
      have still := Table.mem_of_find? rows
      exact ⟨job, still, rfl, fun isOpen => absurd isOpen (settled job still),
        fun _ => rfl⟩
    · rw [found] at isJob
      cases isJob
      exact ⟨last, Table.mem_of_find? isLast, Table.key_of_find? isLast,
        fun _ => asPossible, fun closed => absurd isOpen closed⟩
  · intro last member
    have ok := wellFormed.jobs last member
    constructor
    · cases status : last.status with
      | queued => exact absurd (.inl status) (settled last member)
      | processing => exact absurd (.inr status) (settled last member)
      | completed => exact .inl ⟨rfl, ok.reported.mp status⟩
      | failed =>
          refine .inr ⟨rfl, (ok.shape.failed status).2.2.2, ?_⟩
          exact ok.unreported (by simp [status])
      | other text => exact absurd status (ok.shape.known text)
    · have found := Table.find?_of_mem member
      rcases advanced.jobs last.jobId with
        untouched | ⟨job, _, isJob, _⟩
      · have rows := congrArg Prod.fst untouched
        simp only [rowsOf, found] at rows
        exact ⟨last, Table.mem_of_find? rows.symm, rfl⟩
      · exact ⟨job, Table.find?_eq_some_iff.mp isJob⟩

/-- The export is queued, and no worker has begun. -/
def awaiting : Config university (Except Exc Unit) :=
  Provenance.exporting.played sampleApplication accept
    (plain (List.replicate 6 0))

theorem queue_can_drain_awaiting :
    ∃ final, Run sampleApplication anything awaiting final ∧
      ∃ last ∈ final.store.queue.jobs.rows, last.status = .completed := by
  have reachable : Reachable sampleApplication anything linkedStore awaiting :=
    (Provenance.exporting_reachable anything).trans
      (Provenance.exporting.played_run sampleApplication accept anything
        (fun _ _ _ _ => trivial) _ (by cbv))
  obtain ⟨final, run, _, settles, _⟩ := queue_can_drain sampleLibraries
    .default linkedStore rfl awaiting reachable
  have queued : awaiting.store.queue.jobs.rows = [newJob "" 2 1 0] := by cbv
  obtain ⟨last, member, _, settled, _⟩ := settles (newJob "" 2 1 0)
    (queued ▸ List.mem_singleton_self _)
  have feasible : Feasible awaiting.store (newJob "" 2 1 0) := by
    refine .inr ⟨rfl, ?_⟩
    cbv
  rcases settled (.inl rfl) with ⟨_, completed⟩ | ⟨infeasible, _⟩
  · exact ⟨final, run, last, member, completed⟩
  · exact absurd feasible infeasible

end SystemUni.Workers.Draining
