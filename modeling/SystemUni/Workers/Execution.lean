import SystemUni.Workers.Frame
import SystemUni.Workers.Queue

/-!
# Every function keeps to the effects of the queue

The discipline of the queue: others may do whatever `Evolves` allows, and each
committed statement is an `Effect`.  One specification per function, from the
reads at the bottom up to a whole execution.
-/

set_option autoImplicit false

namespace SystemUni.Workers.Execution

open Interleaving Relational
open SystemUni.Runtime.Errors
open SystemUni.Runtime.Statements
open SystemUni.Runtime.Rules
open SystemUni.Models.Rows
open SystemUni.Models.Jobs
open SystemUni.Services.Reports
open SystemUni.Routers.Reports
open SystemUni.Workers.Tasks
open SystemUni.Workers.Runner
open SystemUni.Workers.Frame
open SystemUni.Workers.Queue

def queueDiscipline (settings : Settings) : Discipline university where
  inv store := WellFormed store.queue
  rely _ before after := Evolves before.queue after.queue
  guar _ label choice before after :=
    Effect settings before.queue label choice after.queue
  ok := anything
  rely_refl _ store := .refl store.queue
  rely_trans _ _ _ _ before after := before.trans after
  guar_rely _ effect := effect.evolves

theorem queue_stutters (settings : Settings) :
    Stutters (queueDiscipline settings) :=
  fun _ label choice store _ =>
    @Effect.unchanged settings store.queue label choice

section Specifications

variable {settings : Settings} {me : Nat} {store : Store}

/-- A transaction on the queue: it is enough to name its effect. -/
theorem runs_queue {α : Type} {label : Label}
    {body : Choice → Store → Except Exc (α × Store)}
    {post : α → Store → Prop} {fail : Exc → Store → Prop}
    (wellFormed : WellFormed store.queue)
    (raises : ∀ exc later, Later (queueDiscipline settings) me store later →
      fail exc later)
    (effect : ∀ choice value next, body choice store = .ok (value, next) →
      Effect settings store.queue label choice next.queue)
    (returns : ∀ choice value next later,
      body choice store = .ok (value, next) →
      Later (queueDiscipline settings) me store later →
      Evolves next.queue later.queue → post value later) :
    Runs (queueDiscipline settings) me (transaction label body) post fail
      store := by
  refine runs_transaction (queue_stutters settings) wellFormed raises ?_
  intro choice value next _ result
  have done := effect choice value next result
  refine ⟨done.wellFormed wellFormed, done, ?_⟩
  intro later follows
  have whole : Later (queueDiscipline settings) me store later :=
    ⟨follows.inv, done.evolves.trans follows.rely⟩
  exact ⟨returns choice value next later result whole follows.rely,
    fun exc => raises exc later whole⟩

theorem runs_now {post : Time → Store → Prop} {fail : Exc → Store → Prop}
    (wellFormed : WellFormed store.queue)
    (returns : ∀ time later, Later (queueDiscipline settings) me store later →
      post time later) :
    Runs (queueDiscipline settings) me now post fail store :=
  runs_observe (queue_stutters settings) wellFormed
    fun choice later follows => returns choice.now later follows

theorem runs_reconcileReportedJob {jobId : String}
    {post : Option Report → Store → Prop} {fail : Exc → Store → Prop}
    (wellFormed : WellFormed store.queue)
    (raises : ∀ exc later, Later (queueDiscipline settings) me store later →
      fail exc later)
    (returns : ∀ report later,
      Later (queueDiscipline settings) me store later →
      (∀ found, report = some found →
        later.queue.reports.find? jobId = some found) →
      post report later) :
    Runs (queueDiscipline settings) me (reconcileReportedJob jobId) post fail
      store := by
  refine runs_bind (runs_query (queue_stutters settings) wellFormed raises ?_)
  intro afterRead read
  cases found : store.queue.reports.find? jobId with
  | none =>
      exact runs_pure _ (returns none afterRead read fun _ absurd => by
        cases absurd)
  | some report =>
      refine runs_bind (runs_now read.inv ?_)
      intro time afterClock clock
      have here : afterClock.queue.reports.find? jobId = some report :=
        (read.trans clock).rely.report found
      refine runs_bind (runs_queue clock.inv ?_ ?_ ?_)
      · intro exc later follows
        exact raises exc later ((read.trans clock).trans follows)
      · intro choice value next result
        cases result
        exact .completed choice jobId time (by rw [here]; rfl)
      · intro choice value next later result follows _
        refine runs_pure _ (returns _ later
          ((read.trans clock).trans follows) ?_)
        intro other same
        cases same
        exact follows.rely.report here

theorem runs_reconcileReportedJobs {post : Nat → Store → Prop}
    {fail : Exc → Store → Prop} (wellFormed : WellFormed store.queue)
    (raises : ∀ exc later, fail exc later)
    (returns : ∀ repaired later, post repaired later) :
    Runs (queueDiscipline settings) me reconcileReportedJobs post fail
      store := by
  refine runs_bind (runs_now wellFormed ?_)
  intro time afterClock clock
  refine runs_queue clock.inv (fun exc later _ => raises exc later) ?_
    fun choice value next later _ _ _ => returns value later
  intro choice value next result
  cases result
  exact .completedAll choice time

theorem runs_claimNextJob {post : Option ClaimedJob → Store → Prop}
    {fail : Exc → Store → Prop} (wellFormed : WellFormed store.queue)
    (raises : ∀ exc later, WellFormed later.queue → fail exc later)
    (returns : ∀ claim later, WellFormed later.queue → post claim later) :
    Runs (queueDiscipline settings) me (claimNextJob settings) post fail
      store := by
  refine runs_bind (runs_now wellFormed ?_)
  intro time afterClock clock
  refine runs_bind (runs_observe (queue_stutters settings) clock.inv ?_)
  intro draw afterToken token
  refine runs_queue token.inv
    (fun exc later follows => raises exc later follows.inv) ?_
    fun choice value next later _ follows _ => returns value later follows.inv
  intro choice value next result
  cases found : candidate time choice.lockedJobs afterToken.queue.jobs with
  | none =>
      rw [found] at result
      cases result
      exact .unchanged _ choice
  | some job =>
      rw [found] at result
      cases result
      exact .claimed choice time job draw.uuid found

theorem runs_renewLease {claim : ClaimedJob} {post : Bool → Store → Prop}
    {fail : Exc → Store → Prop} (wellFormed : WellFormed store.queue)
    (raises : ∀ exc later, WellFormed later.queue → fail exc later)
    (returns : ∀ renewed later, WellFormed later.queue → post renewed later) :
    Runs (queueDiscipline settings) me (renewLease settings claim) post fail
      store := by
  refine runs_bind (runs_now wellFormed ?_)
  intro leaseStart afterFirst first
  refine runs_bind (runs_now first.inv ?_)
  intro updatedAt afterSecond second
  refine runs_queue second.inv
    (fun exc later follows => raises exc later follows.inv) ?_
    fun choice value next later _ follows _ => returns value later follows.inv
  intro choice value next result
  cases result
  exact .renewed choice claim _ updatedAt

theorem runs_leaves {α : Type} {program : Py α}
    (leaves : Leaves Store.queue program)
    {post : α → Store → Prop} {fail : Exc → Store → Prop}
    (wellFormed : WellFormed store.queue)
    (raises : ∀ exc later, Later (queueDiscipline settings) me store later →
      fail exc later)
    (returns : ∀ value later,
      Later (queueDiscipline settings) me store later → post value later) :
    Runs (queueDiscipline settings) me program post fail store := by
  refine safe_of_keeps (queueDiscipline settings) me Store.queue ?_
    program.run leaves _ store wellFormed ?_
  · intro label choice before after same invariant
    have unchanged : Effect settings before.queue label choice after.queue :=
      same ▸ .unchanged label choice
    exact ⟨unchanged.wellFormed invariant, unchanged, unchanged.evolves⟩
  · intro result later follows
    cases result with
    | ok value => exact returns value later follows
    | error exc => exact raises exc later follows

/-! ## `_record_failure` -/

theorem held_attempts {queue later : Queue} (wellFormed : WellFormed queue)
    (laterWellFormed : WellFormed later) {claim : ClaimedJob} {job held : Job}
    (member : job ∈ queue.jobs.rows) (owned : ownsJob job claim = true)
    (heldMember : held ∈ later.jobs.rows)
    (holds : heldUnder claim held = true) :
    held.attemptCount = job.attemptCount := by
  simp only [ownsJob, Bool.and_eq_true, decide_eq_true_eq] at owned
  obtain ⟨_, _, _, version⟩ := heldUnder_iff.mp holds
  calc
    held.attemptCount = held.jobVersion :=
      (laterWellFormed.jobs held heldMember).same_count
    _ = job.jobVersion := version.trans owned.2.symm
    _ = job.attemptCount := (wellFormed.jobs job member).same_count.symm

theorem runs_retryAfter {attemptCount : Nat} {permanent : Bool} {now : Time}
    {post : Option Time → Store → Prop} {fail : Exc → Store → Prop}
    (wellFormed : WellFormed store.queue)
    (raises : ∀ exc later, fail exc later)
    (returns : ∀ retryAt later,
      Later (queueDiscipline settings) me store later →
      Decision settings permanent attemptCount
        (permanent || decide (settings.jobMaxAttempts ≤ attemptCount))
        retryAt now →
      post retryAt later) :
    Runs (queueDiscipline settings) me
      (retryAfter settings attemptCount
        (permanent || decide (settings.jobMaxAttempts ≤ attemptCount)) now)
      post fail store := by
  unfold retryAfter
  split
  · rename_i failed
    refine runs_pure _ (returns none store (.refl wellFormed) ?_)
    exact ⟨rfl, fun _ => rfl,
      fun retried => Bool.noConfusion (failed.symm.trans retried)⟩
  · rename_i retried
    refine runs_bind (runs_observe (queue_stutters settings) wellFormed ?_)
    intro draw afterJitter jitter
    cases time : retryTime settings attemptCount draw.jitter now with
    | error exc =>
        exact runs_throw _ (raises exc afterJitter)
    | ok retryAt =>
        refine runs_pure _ (returns _ afterJitter jitter ?_)
        exact ⟨rfl, fun failed => absurd failed retried,
          fun _ => ⟨draw.jitter, retryAt, time, rfl⟩⟩

theorem runs_recordFailure {claim : ClaimedJob} {error : Exc}
    {permanent : Bool} {post : ExecutionStatus → Store → Prop}
    {fail : Exc → Store → Prop} (wellFormed : WellFormed store.queue)
    (raises : ∀ exc later, fail exc later)
    (returns : ∀ status later, post status later) :
    Runs (queueDiscipline settings) me
      (recordFailure settings claim error permanent) post fail store := by
  refine runs_bind (runs_query (queue_stutters settings) wellFormed
    (fun exc later _ => raises exc later) ?_)
  intro afterRead read
  cases found : store.queue.jobs.find? claim.jobId with
  | none => exact runs_pure _ (returns _ afterRead)
  | some job =>
      have member : job ∈ store.queue.jobs.rows := Table.mem_of_find? found
      dsimp only
      split
      · exact runs_pure _ (returns _ afterRead)
      split
      · exact runs_pure _ (returns _ afterRead)
      rename_i owns
      have owned : ownsJob job claim = true := by simpa using owns
      refine runs_bind (runs_now read.inv ?_)
      intro now afterClock clock
      refine runs_bind (runs_retryAfter clock.inv raises ?_)
      intro retryAt afterRetry retry decision
      refine runs_bind (runs_queue retry.inv (fun exc later _ =>
        raises exc later) ?_ ?_)
      · intro choice applied next result
        cases result
        refine .failed choice claim error permanent _ retryAt now ?_
        intro held heldMember holds
        rw [held_attempts wellFormed retry.inv member owned heldMember holds]
        exact decision
      · intro choice applied next later _ _ _
        cases applied with
        | true => exact runs_pure _ (returns _ later)
        | false => exact runs_pure _ (returns _ later)

/-! ## `_persist_or_adopt_report` -/

theorem runs_adoptReport {jobId : String} {post : Report → Store → Prop}
    {fail : Exc → Store → Prop} (wellFormed : WellFormed store.queue)
    (raises : ∀ exc later, WellFormed later.queue → fail exc later)
    (returns : ∀ report later, WellFormed later.queue →
      later.queue.reports.find? jobId = some report → post report later)
    (exc : Exc) :
    Runs (queueDiscipline settings) me
      (if exc.isIntegrityError then do
        let winner ← reconcileReportedJob jobId
        match winner with
        | none => throw exc
        | some winner => return winner
      else throw exc) post fail store := by
  split
  · refine runs_bind (runs_reconcileReportedJob wellFormed
      (fun exc last follows => raises exc last follows.inv) ?_)
    intro winner last follows found
    cases winner with
    | none => exact runs_throw _ (raises exc last follows.inv)
    | some winner =>
        exact runs_pure _ (returns winner last follows.inv (found _ rfl))
  · exact runs_throw _ (raises exc store wellFormed)

theorem runs_persistOrAdoptReport {jobId : String} {result : Transcript}
    {post : Report → Store → Prop} {fail : Exc → Store → Prop}
    (wellFormed : WellFormed store.queue)
    (raises : ∀ exc later, WellFormed later.queue → fail exc later)
    (returns : ∀ report later, WellFormed later.queue →
      later.queue.reports.find? jobId = some report → post report later) :
    Runs (queueDiscipline settings) me (persistOrAdoptReport jobId result)
      post fail store := by
  refine runs_tryCatch (runs_bind (runs_now wellFormed ?_))
  intro time afterClock clock
  refine runs_bind (runs_queue clock.inv (fun exc later follows =>
    runs_adoptReport follows.inv raises returns exc) ?_ ?_)
  · intro choice value next body
    obtain ⟨queue, inserted, becomes⟩ := mapped_ok body
    cases becomes
    exact .persisted choice ⟨jobId, result⟩ time queue inserted
  · intro choice value next later body follows evolves
    refine runs_pure _ (returns _ later follows.inv ?_)
    obtain ⟨queue, inserted, becomes⟩ := mapped_ok body
    cases becomes
    obtain ⟨fresh, _, rfl⟩ := persistReport_ok inserted
    refine evolves.report ?_
    change (afterClock.queue.reports.insert _ fresh).find? jobId = _
    rw [Table.find?_insert, if_pos rfl]

/-! ## Executions -/

/-- An execution that answers a result answers the one in the report row. -/
structure Adopted (claim : ClaimedJob) (result : ExecutionResult)
    (queue : Queue) : Prop where
  jobId : result.jobId = claim.jobId
  row : ∀ transcript, result.result = some transcript →
    queue.reports.find? claim.jobId = some ⟨claim.jobId, transcript⟩

theorem adopted_none (claim : ClaimedJob) (status : ExecutionStatus)
    (queue : Queue) : Adopted claim ⟨status, claim.jobId, none⟩ queue :=
  ⟨rfl, fun _ absurd => by cases absurd⟩

abbrev Healthy {α : Type} (_ : α) (later : Store) : Prop :=
  WellFormed later.queue

theorem runs_completedResult {claim : ClaimedJob}
    (wellFormed : WellFormed store.queue) :
    Runs (queueDiscipline settings) me (completedResult claim.jobId)
      (fun result later => WellFormed later.queue ∧
        Adopted claim result later.queue) Healthy store := by
  refine runs_bind (runs_bind (runs_query (queue_stutters settings) wellFormed
    (fun exc later follows => follows.inv) ?_))
  intro later follows
  cases found : store.queue.reports.find? claim.jobId with
  | none => exact runs_throw _ follows.inv
  | some report =>
      refine runs_pure _ (runs_pure _ ⟨follows.inv, rfl, ?_⟩)
      intro transcript same
      cases same
      have here := follows.rely.report found
      have key : report.jobId = claim.jobId := Table.key_of_find? found
      rw [here]
      cases report
      cases key
      rfl

/-- The shape of every early return: reconcile, and answer the result if there
is a report. -/
theorem runs_adoptOr {α : Type} {jobId : String} {adopting rest : Py α}
    {post : α → Store → Prop} (wellFormed : WellFormed store.queue)
    (adopts : ∀ later, WellFormed later.queue →
      Runs (queueDiscipline settings) me adopting post Healthy later)
    (otherwise : ∀ later, WellFormed later.queue →
      Runs (queueDiscipline settings) me rest post Healthy later) :
    Runs (queueDiscipline settings) me
      (do
        let existing ← reconcileReportedJob jobId
        if existing.isSome then adopting else rest) post Healthy store := by
  refine runs_bind (runs_reconcileReportedJob wellFormed
    (fun exc later follows => follows.inv) ?_)
  intro existing later follows _
  split
  · exact adopts later follows.inv
  · exact otherwise later follows.inv

/-- What the body of the `with` statement may hand on. -/
def Generated (claim : ClaimedJob)
    (answer : ExecutionResult ⊕ Option Transcript) (later : Store) : Prop :=
  WellFormed later.queue ∧
    ∀ result, answer = .inl result → Adopted claim result later.queue

theorem runs_returnCompleted {claim : ClaimedJob}
    (wellFormed : WellFormed store.queue) :
    Runs (queueDiscipline settings) me
      (do
        let result ← completedResult claim.jobId
        return (.inl result : ExecutionResult ⊕ Option Transcript))
      (Generated claim) Healthy store := by
  refine runs_bind (runs_mono (runs_completedResult wellFormed) ?_
    fun _ _ healthy => healthy)
  intro result later ⟨healthy, adopted⟩
  refine runs_pure _ ⟨healthy, fun other same => ?_⟩
  cases same
  exact adopted

theorem runs_generateUnderLease {claim : ClaimedJob} {reportType : String}
    {targetId : Id} {execution : Nat} (wellFormed : WellFormed store.queue) :
    Runs (queueDiscipline settings) me
      (generateUnderLease claim reportType targetId execution)
      (Generated claim) Healthy store := by
  refine runs_adoptOr wellFormed (fun later => runs_returnCompleted) ?_
  intro later healthy
  split
  · exact runs_throw _ healthy
  refine runs_bind (runs_leaves (leaves_generate targetId) healthy
    (fun exc last follows => follows.inv) ?_)
  intro transcript generated follows
  refine runs_bind (runs_observe (queue_stutters settings) follows.inv ?_)
  intro draw flagged flag
  split
  · exact runs_adoptOr flag.inv (fun later => runs_returnCompleted)
      fun last healthy => runs_throw _ healthy
  · refine runs_pure _ ⟨flag.inv, fun other same => ?_⟩
    cases same

theorem runs_event {α : Type} {body : Nat → Choice → Store → α × Store}
    {post : α → Store → Prop} {fail : Exc → Store → Prop}
    (wellFormed : WellFormed store.queue)
    (event : ∀ me choice store, (body me choice store).2.queue = store.queue)
    (returns : ∀ value later, Later (queueDiscipline settings) me store later →
      post value later) :
    Runs (queueDiscipline settings) me (internal body) post fail store := by
  refine runs_internal fun choice _ => ?_
  have same := event me choice store
  have unchanged : Effect settings store.queue .internal choice
      (body me choice store).2.queue := same ▸ .unchanged .internal choice
  refine ⟨unchanged.wellFormed wellFormed, unchanged, ?_⟩
  intro later follows
  exact returns _ later
    ⟨follows.inv, unchanged.evolves.trans follows.rely⟩

theorem runs_jobHeartbeat {claim : ClaimedJob} {reportType : String}
    {targetId : Id} (wellFormed : WellFormed store.queue) :
    Runs (queueDiscipline settings) me
      (jobHeartbeat claim (generateUnderLease claim reportType targetId))
      (Generated claim) Healthy store := by
  refine runs_bind (runs_event wellFormed (fun _ _ _ => rfl) ?_)
  intro execution entered enter
  refine runs_bind (runs_startThread ?_)
  intro started start
  refine runs_withFinally (runs_mono (runs_generateUnderLease start.inv) ?_ ?_)
  · intro answer later ⟨healthy, adopted⟩
    refine runs_event healthy (fun _ _ _ => rfl) ?_
    intro _ last follows
    refine ⟨follows.inv, fun result same => ?_⟩
    have row := adopted result same
    exact ⟨row.jobId, fun transcript has =>
      follows.rely.report (row.row transcript has)⟩
  · intro exc later healthy
    exact runs_event healthy (fun _ _ _ => rfl)
      fun _ last follows => follows.inv

theorem runs_executeClaim {claim : ClaimedJob}
    (wellFormed : WellFormed store.queue) :
    Runs (queueDiscipline settings) me (executeClaim claim)
      (fun result later => WellFormed later.queue ∧
        Adopted claim result later.queue) Healthy store := by
  refine runs_bind (runs_query (queue_stutters settings) wellFormed
    (fun exc later follows => follows.inv) ?_)
  intro afterRead read
  cases found : store.queue.jobs.find? claim.jobId with
  | none => exact runs_pure _ ⟨read.inv, adopted_none claim _ _⟩
  | some job =>
      refine runs_adoptOr read.inv (fun later => runs_completedResult) ?_
      intro reconciled healthy
      split
      · exact runs_pure _ ⟨healthy, adopted_none claim _ _⟩
      split
      · exact runs_pure _ ⟨healthy, adopted_none claim _ _⟩
      refine runs_bind (runs_mono (runs_jobHeartbeat healthy) ?_
        fun _ _ healthy => healthy)
      intro answer generated ⟨healthy, adopted⟩
      cases answer with
      | inl result => exact runs_pure _ ⟨healthy, adopted result rfl⟩
      | inr transcript =>
          refine runs_adoptOr healthy (fun later => runs_completedResult) ?_
          intro unreported healthy
          cases transcript with
          | none => exact runs_throw _ healthy
          | some transcript =>
              refine runs_bind (runs_persistOrAdoptReport healthy
                (fun _ _ healthy => healthy) ?_)
              intro report later healthy found
              have key : report.jobId = claim.jobId :=
                Table.key_of_find? found
              rw [key]
              exact runs_completedResult healthy

theorem runs_handleError {claim : ClaimedJob} {exc : Exc}
    (wellFormed : WellFormed store.queue) :
    Runs (queueDiscipline settings) me (handleError settings claim exc)
      (fun result later => Adopted claim result later.queue)
      (fun _ _ => True) store := by
  -- Every clause but the first looks for a report before anything else.
  have adoptOr : ∀ rest : Py ExecutionResult,
      (∀ later, WellFormed later.queue →
        Runs (queueDiscipline settings) me rest
          (fun result last => Adopted claim result last.queue)
          (fun _ _ => True) later) →
      Runs (queueDiscipline settings) me
        (do
          let existing ← reconcileReportedJob claim.jobId
          if existing.isSome then completedResult claim.jobId else rest)
        (fun result last => Adopted claim result last.queue)
        (fun _ _ => True) store := by
    intro rest otherwise
    refine runs_bind (runs_reconcileReportedJob wellFormed
      (fun _ _ _ => trivial) ?_)
    intro existing later follows _
    split
    · exact runs_mono (runs_completedResult follows.inv)
        (fun _ _ result => result.2) fun _ _ _ => trivial
    · exact otherwise later follows.inv
  have records : ∀ (error : Exc) (permanent : Bool) (later : Store),
      WellFormed later.queue →
      Runs (queueDiscipline settings) me
        (do
          let status ← recordFailure settings claim error permanent
          return (⟨status, claim.jobId, none⟩ : ExecutionResult))
        (fun result last => Adopted claim result last.queue)
        (fun _ _ => True) later :=
    fun error permanent later healthy =>
      runs_bind (runs_recordFailure healthy (fun _ _ => trivial)
        fun status last => runs_pure _ (adopted_none claim status last.queue))
  have retries := adoptOr _ (records exc false)
  cases exc with
  | permanentJobError message => exact records _ true store wellFormed
  | leaseLostError jobId =>
      exact adoptOr _ fun later _ =>
        runs_pure _ (adopted_none claim _ later.queue)
  | sql kind text => exact retries
  | httpException statusCode detail => exact retries
  | overflowError => exact retries
  | other name text => exact retries

/-- Whatever interferes, an execution that answers a result answers the one
that the report row holds. -/
theorem runs_processClaimedReport {claim : ClaimedJob}
    (wellFormed : WellFormed store.queue) :
    Runs (queueDiscipline settings) me (processClaimedReport settings claim)
      (fun result later => Adopted claim result later.queue)
      (fun _ _ => True) store := by
  refine runs_tryCatch (runs_mono (runs_executeClaim wellFormed) ?_ ?_)
  · intro result later ⟨_, adopted⟩
    exact adopted
  · intro exc later healthy
    exact runs_handleError healthy

/-! ## The heartbeat thread and the worker loop -/

theorem runs_heartbeatTurn {claim : ClaimedJob} {execution : Nat}
    (wellFormed : WellFormed store.queue) :
    Runs (queueDiscipline settings) me
      (heartbeatTurn settings claim execution)
      (fun _ _ => True) (fun _ _ => True) store := by
  have handled : ∀ (exc : Exc) (later : Store), WellFormed later.queue →
      Runs (queueDiscipline settings) me
        (if exc.isSqlAlchemyError then return true else throw exc : Py Bool)
        (fun _ _ => True) (fun _ _ => True) later := by
    intro exc later _
    split
    · exact runs_pure _ trivial
    · exact runs_throw _ trivial
  refine runs_tryCatch (runs_bind (runs_reconcileReportedJob wellFormed
    (fun exc later follows => handled exc later follows.inv) ?_))
  intro report later follows _
  cases report with
  | some report =>
      exact runs_bind (runs_event follows.inv (fun _ _ _ => rfl)
        fun _ _ _ => runs_pure _ trivial)
  | none =>
      exact runs_renewLease follows.inv handled fun _ _ _ => trivial

theorem runs_heartbeatLoop {claim : ClaimedJob} {execution : Nat}
    (wellFormed : WellFormed store.queue) :
    Runs (queueDiscipline settings) me
      (heartbeatLoop settings claim execution)
      (fun _ _ => True) (fun _ _ => True) store := by
  refine runs_bind (runs_observe (queue_stutters settings) wellFormed ?_)
  intro draw afterWait wait
  split
  · exact runs_pure _ trivial
  refine runs_bind (runs_mono (runs_heartbeatTurn wait.inv) ?_
    fun _ _ _ => trivial)
  intro again later _
  split
  · exact runs_startThread fun _ _ => trivial
  · exact runs_pure _ trivial

theorem runs_reconcileOnce (wellFormed : WellFormed store.queue) :
    Runs (queueDiscipline settings) me reconcileOnce
      (fun _ _ => True) (fun _ _ => True) store := by
  have handled : ∀ (exc : Exc) (later : Store),
      Runs (queueDiscipline settings) me
        (if exc.isSqlAlchemyError then return () else throw exc : Py Unit)
        (fun _ _ => True) (fun _ _ => True) later := by
    intro exc later
    split
    · exact runs_pure _ trivial
    · exact runs_throw _ trivial
  exact runs_tryCatch (runs_bind (runs_reconcileReportedJobs wellFormed handled
    fun _ _ => runs_pure _ trivial))

theorem runs_claimWithRetry {remaining : Nat}
    (wellFormed : WellFormed store.queue) :
    Runs (queueDiscipline settings) me (claimWithRetry settings remaining)
      Healthy (fun _ _ => True) store := by
  induction remaining generalizing store with
  | zero => exact runs_pure _ wellFormed
  | succ remaining inductionHypothesis =>
      refine runs_tryCatch (runs_claimNextJob wellFormed ?_
        fun _ _ healthy => healthy)
      intro exc later healthy
      split
      · exact inductionHypothesis healthy
      · exact runs_throw _ trivial

theorem runs_runOnce (wellFormed : WellFormed store.queue) :
    Runs (queueDiscipline settings) me (runOnce settings)
      (fun answer later => ∀ claim result, answer = some (claim, result) →
        Adopted claim result later.queue)
      (fun _ _ => True) store := by
  refine runs_bind (runs_mono (runs_claimWithRetry wellFormed) ?_
    fun _ _ _ => trivial)
  intro claimed later healthy
  cases claimed with
  | none => exact runs_pure _ fun _ _ absurd => by cases absurd
  | some claim =>
      refine runs_bind (runs_mono (runs_processClaimedReport healthy) ?_
        fun _ _ _ => trivial)
      intro result last adopted
      refine runs_pure _ fun other answer same => ?_
      cases same
      exact adopted

/-! ## The endpoints -/

theorem runs_exportTranscriptAsync {studentId : Id} {user : User}
    (wellFormed : WellFormed store.queue) :
    Runs (queueDiscipline settings) me (exportTranscriptAsync studentId user)
      (fun _ _ => True) (fun _ _ => True) store := by
  refine runs_bind (runs_cast (queue_stutters settings) wellFormed
    (fun _ _ _ => trivial) ?_)
  intro afterRead read
  cases found : store.db.tables.students.find? studentId with
  | none => exact runs_throw _ trivial
  | some student =>
      dsimp only
      split
      · exact runs_throw _ trivial
      refine runs_bind (runs_observe (queue_stutters settings) read.inv ?_)
      intro draw afterToken token
      refine runs_bind (runs_queue token.inv (fun _ _ _ => trivial) ?_
        fun _ _ _ _ _ _ _ => runs_pure _ trivial)
      intro choice value next body
      obtain ⟨queue, enqueued, becomes⟩ := mapped_ok body
      cases becomes
      exact .exported choice user.id studentId draw.uuid _ queue
        ⟨rfl, rfl, rfl⟩ enqueued

/-- What a poll that is not refused gives away about the job. -/
structure Shown (user : User) (data : JobData) (queue : Queue) : Prop where
  allowed : user.role = .admin ∨ user.id = data.ownerId
  job : ∃ job ∈ queue.jobs.rows, job.jobId = data.jobId ∧
    job.ownerId = data.ownerId ∧ job.targetId = data.targetId

/-- The status and the result of a response fit together, and a result is the
persisted report. -/
structure Consistent (data : JobData) (queue : Queue) : Prop where
  completed : data.status = .completed ↔ data.result ≠ none
  persisted : ∀ transcript, data.result = some transcript →
    queue.reports.find? data.jobId = some ⟨data.jobId, transcript⟩

/-- A response gives away a report that was there when the poll began. -/
def Sees (jobId : String) (data : JobData) (began : Queue) : Prop :=
  ∀ report, began.reports.find? jobId = some report →
    data.status = .completed ∧ data.result = some report.result

/-- There is such a job and this user may see it. -/
def Visible (jobId : String) (user : User) (queue : Queue) : Prop :=
  ∃ job, queue.jobs.find? jobId = some job ∧
    (user.role = .admin ∨ user.id = job.ownerId)

/-- How a poll is refused. -/
def Refused (jobId : String) (user : User) (began : Queue) (exc : Exc) :
    Prop :=
  exc = jobNotFound ∧ ¬ Visible jobId user began ∨
    exc.isSqlAlchemyError = true

/-- The report is read after the job: a job that was completed by then has its
report. -/
theorem consistent_of_reads {queue later : Queue}
    (wellFormed : WellFormed queue) (evolves : Evolves queue later)
    {jobId : String} {job : Job} (found : queue.jobs.find? jobId = some job)
    (data : JobData) (same : data.jobId = jobId)
    (status : data.status =
      if (later.reports.find? jobId).isSome then .completed else job.status)
    (result : data.result =
      (later.reports.find? jobId).map fun report => report.result) :
    Consistent data later ∧ Sees jobId data queue := by
  have key : job.jobId = jobId := Table.key_of_find? found
  have reported := (wellFormed.jobs job (Table.mem_of_find? found)).reported
  rw [key] at reported
  refine ⟨⟨?_, ?_⟩, ?_⟩
  · cases report : later.reports.find? jobId with
    | some report =>
        rw [report] at status result
        simp [status, result]
    | none =>
        have unreported : queue.reports.find? jobId = none := by
          by_contra present
          obtain ⟨earlier, here⟩ := Option.ne_none_iff_exists'.mp present
          rw [evolves.report here] at report
          cases report
        have unfinished : job.status ≠ .completed := by
          rw [Ne, reported, unreported]
          simp
        rw [report] at status result
        simp [status, result, unfinished]
  · intro transcript given
    rw [given] at result
    obtain ⟨report, here, rfl⟩ := Option.map_eq_some_iff.mp result.symm
    have reportKey : report.jobId = jobId := Table.key_of_find? here
    rw [same, here, ← reportKey]
  · intro report here
    rw [evolves.report here] at status result
    exact ⟨status, result⟩

theorem runs_getJobStatus {jobId : String} {user : User}
    (wellFormed : WellFormed store.queue) :
    Runs (queueDiscipline settings) me (getJobStatus jobId user)
      (fun data later => Shown user data later.queue ∧
        Consistent data later.queue ∧ data.jobId = jobId ∧
        Sees jobId data store.queue)
      (fun exc _ => Refused jobId user store.queue exc) store := by
  refine runs_bind (runs_select (queue_stutters settings) wellFormed
    (fun _ _ _ _ => .inr rfl) ?_)
  intro afterJob readJob
  cases found : store.queue.jobs.find? jobId with
  | none =>
      refine runs_throw _ (.inl ⟨rfl, ?_⟩)
      rintro ⟨job, present, _⟩
      rw [found] at present
      cases present
  | some job =>
      dsimp only
      split
      · rename_i excluded
        refine runs_throw _ (.inl ⟨rfl, ?_⟩)
        rintro ⟨other, present, allowed⟩
        cases found.symm.trans present
        exact allowed.elim excluded.1 excluded.2
      rename_i allowed
      refine runs_bind (runs_select (queue_stutters settings) readJob.inv
        (fun _ _ _ _ => .inr rfl) ?_)
      intro later readReport
      obtain ⟨consistent, sees⟩ := consistent_of_reads wellFormed
        readJob.rely found
        ⟨jobId, _, job.ownerId, job.reportType, job.targetId, _⟩ rfl rfl rfl
      refine runs_pure _ ⟨⟨?_, ?_⟩, ⟨consistent.completed, ?_⟩, rfl, sees⟩
      · by_contra refused
        obtain ⟨notAdmin, notOwner⟩ := not_or.mp refused
        exact allowed ⟨notAdmin, notOwner⟩
      · obtain ⟨next, member, evolves⟩ :=
          (readJob.trans readReport).rely.jobs job (Table.mem_of_find? found)
        exact ⟨next, member,
          evolves.jobId.trans (Table.key_of_find? found),
          evolves.ownerId, evolves.targetId⟩
      · exact fun transcript given =>
          readReport.rely.report (consistent.persisted transcript given)

end Specifications

end SystemUni.Workers.Execution
