import SystemUni.Workers.Guarantees

/-!
# Leases against the clock

Time passes only while everybody waits: workers generate for as long as they
like, a database call takes no time, and the heartbeat of a block wakes exactly
`job_heartbeat_seconds` after it began to wait.  A claim is taken away by
`claim_next_job` alone, so the question is which leases it finds expired.
-/

set_option autoImplicit false

namespace SystemUni.Workers.Leases

open Interleaving Relational
open SystemUni.Runtime.Errors
open SystemUni.Runtime.Statements
open SystemUni.Runtime.Rules
open SystemUni.Models.Rows
open SystemUni.Models.Jobs
open SystemUni.Models.Schema
open SystemUni.Routers.Reports
open SystemUni.Workers.Tasks
open SystemUni.Workers.Queue
open SystemUni.Workers.Execution
open SystemUni.Workers.Service
open SystemUni.Workers.Guarantees

/-! ## Claims and what they are covered by -/

/-- The claim's job has its report, or the claim holds it with a lease that has
not expired at that time. -/
def Covers (claim : ClaimedJob) (time : Time) (queue : Queue) : Prop :=
  (queue.reports.find? claim.jobId).isSome = true ∨
    ∃ row leaseUntil, queue.jobs.find? claim.jobId = some row ∧
      heldUnder claim row = true ∧ row.leaseUntil = some leaseUntil ∧
      time ≤ leaseUntil

theorem Covers.mono {claim : ClaimedJob} {early late : Time} {queue : Queue}
    (covers : Covers claim late queue) (order : early ≤ late) :
    Covers claim early queue := by
  rcases covers with reported | ⟨row, leaseUntil, found, holds, lease, lasts⟩
  · exact .inl reported
  · exact .inr ⟨row, leaseUntil, found, holds, lease, order.trans lasts⟩

section Effects

variable {claim : ClaimedJob} {time : Time} {queue : Queue}

/-- An update keeps the claim covered if it does so on the row of the claim,
when there is no report yet. -/
theorem Covers.update (covers : Covers claim time queue)
    {condition : Job → Bool} {change : Job → Job}
    (same : ∀ job, (change job).jobId = job.jobId)
    (keeps : ∀ row leaseUntil, queue.jobs.find? claim.jobId = some row →
      heldUnder claim row = true → row.leaseUntil = some leaseUntil →
      time ≤ leaseUntil → condition row = true →
      (queue.reports.find? claim.jobId).isSome = true ∨
        heldUnder claim (change row) = true ∧
          ∃ renewed, (change row).leaseUntil = some renewed ∧
            time ≤ renewed) :
    Covers claim time { queue with
      jobs := queue.jobs.updateWhere condition change same } := by
  rcases covers with reported | ⟨row, leaseUntil, found, holds, lease, lasts⟩
  · exact .inl reported
  · by_cases applies : condition row = true
    · rcases keeps row leaseUntil found holds lease lasts applies with
        reported | ⟨stillHolds, renewed, newLease, newLasts⟩
      · exact .inl reported
      · refine .inr ⟨change row, renewed, ?_, stillHolds, newLease, newLasts⟩
        simp [Table.find?_updateWhere, found, applies]
    · exact .inr ⟨row, leaseUntil,
        Table.find?_updateWhere_skip same found (by simpa using applies),
        holds, lease, lasts⟩

theorem Covers.completeJob (covers : Covers claim time queue)
    {jobId : String} (now : Time)
    (reported : (queue.reports.find? jobId).isSome = true) :
    Covers claim time (completeJob jobId now queue) := by
  refine covers.update _ ?_
  intro row _ found _ _ _ applies
  have isJob : row.jobId = jobId := by
    simp only [Bool.and_eq_true, decide_eq_true_eq] at applies
    exact applies.1
  have isClaims : row.jobId = claim.jobId := Table.key_of_find? found
  rw [← isClaims, isJob]
  exact .inl reported

theorem Covers.completeReportedJobs (covers : Covers claim time queue)
    (now : Time) : Covers claim time (completeReportedJobs now queue) := by
  refine covers.update _ ?_
  intro row _ found _ _ _ applies
  have isClaims : row.jobId = claim.jobId := Table.key_of_find? found
  have reported := (Bool.and_eq_true_iff.mp applies).1
  rw [isClaims] at reported
  exact .inl reported

theorem heldUnder_unique {other : ClaimedJob} {row : Job}
    (holds : heldUnder claim row = true)
    (otherHolds : heldUnder other row = true) : other = claim := by
  obtain ⟨job, _, token, version⟩ := heldUnder_iff.mp holds
  obtain ⟨otherJob, _, otherToken, otherVersion⟩ := heldUnder_iff.mp otherHolds
  have tokens : other.workerToken = claim.workerToken :=
    Option.some.inj (otherToken.symm.trans token)
  cases other
  cases claim
  simp only at job otherJob tokens version otherVersion
  rw [← otherJob, job, tokens, ← otherVersion, version]

/-- The fenced statements of other claims pass over the row. -/
theorem Covers.fenced (covers : Covers claim time queue) {other : ClaimedJob}
    (different : other ≠ claim) {change : Job → Job}
    (same : ∀ job, (change job).jobId = job.jobId) :
    Covers claim time { queue with
      jobs := queue.jobs.updateWhere (heldUnder other) change same } := by
  refine covers.update same ?_
  intro row _ _ holds _ _ applies
  exact absurd (heldUnder_unique holds applies) different

theorem Covers.extendLease (covers : Covers claim time queue)
    (other : ClaimedJob) {leaseUntil : Time} (updatedAt : Time)
    (lasts : time ≤ leaseUntil) :
    Covers claim time (extendLease other leaseUntil updatedAt queue) := by
  refine covers.update _ ?_
  intro row _ _ holds _ _ _
  exact .inr ⟨holds, leaseUntil, rfl, lasts⟩

/-- `claim_next_job` passes over a lease that has not expired: it takes only
what expired before its clock. -/
theorem Covers.not_candidate (covers : Covers claim time queue)
    (wellFormed : WellFormed queue) {now : Time} (order : now ≤ time)
    {locked : List String} {job : Job}
    (found : candidate now locked queue.jobs = some job) :
    job.jobId ≠ claim.jobId := by
  intro same
  obtain ⟨member, eligible, _⟩ := candidate_some found
  have here : queue.jobs.find? claim.jobId = some job := by
    rw [← same]
    exact Table.find?_of_mem member
  rcases covers with reported | ⟨row, leaseUntil, rowFound, holds, lease, lasts⟩
  · rw [← same] at reported
    have completed := (wellFormed.jobs job member).reported.mpr reported
    rcases eligible_status eligible with status | status
    · rw [completed] at status
      cases status
    · rw [completed] at status
      cases status
  · cases rowFound.symm.trans here
    have processing := (heldUnder_iff.mp holds).2.1
    rcases eligible with isReady | isAbandoned
    · simp [ready, processing] at isReady
    · simp only [abandoned, lease, Bool.and_eq_true, decide_eq_true_eq] at isAbandoned
      exact absurd (order.trans lasts) (not_le.mpr isAbandoned.2)

theorem Covers.claimJob (covers : Covers claim time queue)
    (wellFormed : WellFormed queue) (settings : Settings) {now : Time}
    (order : now ≤ time) {locked : List String} {job : Job}
    (workerToken : String)
    (found : candidate now locked queue.jobs = some job) :
    Covers claim time (claimJob settings now
      ⟨job.jobId, workerToken, job.jobVersion + 1⟩ queue) := by
  have different := covers.not_candidate wellFormed order found
  refine Covers.update covers
    (claimValues_jobId settings now workerToken) ?_
  intro row _ rowFound _ _ _ applies
  have isJob : row.jobId = job.jobId := by simpa using applies
  exact absurd (isJob.symm.trans (Table.key_of_find? rowFound)) different

theorem covers_claimed (settings : Settings) {now : Time}
    {locked : List String} {job : Job} (workerToken : String)
    (found : candidate now locked queue.jobs = some job) :
    Covers ⟨job.jobId, workerToken, job.jobVersion + 1⟩
      (now + settings.jobLeaseSeconds)
      (claimJob settings now ⟨job.jobId, workerToken, job.jobVersion + 1⟩
        queue) := by
  have here := Table.find?_of_mem (candidate_some found).1
  refine .inr ⟨claimValues settings now workerToken job,
    now + settings.jobLeaseSeconds, ?_, ?_, rfl, le_refl _⟩
  · simp [Tasks.claimJob, Table.find?_updateWhere, here]
  · simp [heldUnder_iff, claimValues]

theorem Covers.enqueueJob (covers : Covers claim time queue) {job : Job}
    {record : Export} {after : Queue}
    (enqueued : enqueueJob job record queue = .ok after) :
    Covers claim time after := by
  obtain ⟨fresh, rfl⟩ := enqueueJob_ok enqueued
  rcases covers with reported | ⟨row, leaseUntil, found, rest⟩
  · exact .inl reported
  · exact .inr ⟨row, leaseUntil, Table.find?_insert_old fresh found, rest⟩

theorem Covers.persistReport (covers : Covers claim time queue)
    {report : Report} {now : Time} {after : Queue}
    (inserted : persistReport report now queue = .ok after) :
    Covers claim time after := by
  obtain ⟨fresh, _, rfl⟩ := persistReport_ok inserted
  have withReport : Covers claim time
      { queue with reports := queue.reports.insert report fresh } := by
    rcases covers with reported | held
    · refine .inl ?_
      change ((queue.reports.insert report fresh).find? claim.jobId).isSome =
        true
      rw [Table.find?_insert]
      split
      · rfl
      · exact reported
    · exact .inr held
  refine Covers.completeJob withReport now ?_
  change ((queue.reports.insert report fresh).find? report.jobId).isSome = true
  rw [Table.find?_insert, if_pos rfl]
  rfl

/-- The labels of the statements by which a claim is taken, renewed or
failed. -/
def touchesClaim (claim : ClaimedJob) : Label → Prop
  | .queue (.claimNextJob _) => True
  | .queue (.renewLease other) => other = claim
  | .queue (.recordFailure other _ _) => other = claim
  | _ => False

theorem Covers.effect (covers : Covers claim time queue) {settings : Settings}
    {label : Label} {choice : Choice} {after : Queue}
    (effect : Effect settings queue label choice after)
    (elsewhere : ¬ touchesClaim claim label) : Covers claim time after := by
  cases effect with
  | unchanged => exact covers
  | exported choice ownerId targetId jobId record after records enqueued =>
      exact covers.enqueueJob enqueued
  | claimed => exact absurd trivial elsewhere
  | renewed choice other leaseUntil updatedAt =>
      exact covers.fenced elsewhere _
  | failed choice other error permanent failed retryAt now decided =>
      exact covers.fenced elsewhere _
  | persisted choice report now after inserted =>
      exact covers.persistReport inserted
  | completed choice jobId now reported => exact covers.completeJob now reported
  | completedAll choice now => exact covers.completeReportedJobs now

end Effects

/-! ## A turn of the heartbeat -/

/-- A statement executed at this instant, whose call succeeds. -/
def AtClock (clock : Time) (choice : Choice) : Prop :=
  choice.now = clock ∧ choice.call = .done

instance (clock : Time) : Answered (AtClock clock) :=
  ⟨fun _ atClock => atClock.2⟩

/-- Until time passes, what covered the claim covers it still, as far as one
lease reaches. -/
structure StillCovered (settings : Settings) (clock : Time) (claim : ClaimedJob)
    (before after : Queue) : Prop where
  evolves : Evolves before after
  covers : ∀ time, clock ≤ time → time ≤ clock + settings.jobLeaseSeconds →
    Covers claim time before → Covers claim time after

theorem StillCovered.refl {settings : Settings} {clock : Time}
    {claim : ClaimedJob} (queue : Queue) :
    StillCovered settings clock claim queue queue :=
  ⟨.refl queue, fun _ _ _ covers => covers⟩

theorem StillCovered.trans {settings : Settings} {clock : Time}
    {claim : ClaimedJob} {first middle last : Queue}
    (before : StillCovered settings clock claim first middle)
    (after : StillCovered settings clock claim middle last) :
    StillCovered settings clock claim first last :=
  ⟨before.evolves.trans after.evolves, fun time early late covers =>
    after.covers time early late (before.covers time early late covers)⟩

theorem StillCovered.effect {settings : Settings} {clock : Time}
    {claim : ClaimedJob} {before after : Queue} {label : Label}
    {choice : Choice} (effect : Effect settings before label choice after)
    (elsewhere : ¬ touchesClaim claim label) :
    StillCovered settings clock claim before after :=
  ⟨effect.evolves, fun _ _ _ covers => covers.effect effect elsewhere⟩

/-- What a heartbeat thread keeps to at one instant: it disturbs no claim. -/
def leaseDiscipline (settings : Settings) (clock : Time) (claim : ClaimedJob) :
    Discipline university where
  inv store := WellFormed store.queue ∧ Covers claim clock store.queue
  rely _ before after :=
    StillCovered settings clock claim before.queue after.queue
  guar _ _ _ before after :=
    ∀ other, StillCovered settings clock other before.queue after.queue
  ok _ choice _ := AtClock clock choice
  rely_refl _ store := .refl store.queue
  rely_trans _ _ _ _ before after := before.trans after
  guar_rely _ undisturbed := undisturbed claim

section Turn

variable {settings : Settings} {clock : Time} {claim : ClaimedJob} {me : Nat}
  {store : Store}

theorem runs_atClock {α : Type} {label : Label}
    {body : Choice → Store → Except Exc (α × Store)}
    {post : α → Store → Prop} {fail : Exc → Store → Prop}
    (commits : ∀ choice, ∃ value next, body choice store = .ok (value, next) ∧
      (leaseDiscipline settings clock claim).inv next ∧
      (∀ other, StillCovered settings clock other store.queue next.queue) ∧
      ∀ later, Later (leaseDiscipline settings clock claim) me next later →
        post value later) :
    Runs (leaseDiscipline settings clock claim) me (transaction label body)
      post fail store := by
  intro choice _ atClock
  obtain ⟨value, next, result, kept, guaranteed, continues⟩ := commits choice
  have call : choice.call = .done := atClock.2
  have acted : written choice.call (body choice store) store = next := by
    rw [call, result]
    rfl
  have answers : answered choice.call (body choice store) = .ok value := by
    rw [call, result]
    rfl
  change (leaseDiscipline settings clock claim).inv
      (written choice.call (body choice store) store) ∧
    (leaseDiscipline settings clock claim).guar me label choice store
      (written choice.call (body choice store) store) ∧
    ∀ later, (leaseDiscipline settings clock claim).inv later →
      (leaseDiscipline settings clock claim).rely me
        (written choice.call (body choice store) store) later →
      outcome post fail (answered choice.call (body choice store)) later
  rw [acted, answers]
  exact ⟨kept, guaranteed, fun later invariant rely =>
    continues later ⟨invariant, rely⟩⟩

theorem runs_clockNow {post : Time → Store → Prop}
    {fail : Exc → Store → Prop}
    (invariant : (leaseDiscipline settings clock claim).inv store)
    (returns : ∀ later, Later (leaseDiscipline settings clock claim) me store
      later → post clock later) :
    Runs (leaseDiscipline settings clock claim) me now post fail store := by
  refine runs_internal ?_
  intro choice atClock
  refine ⟨invariant, fun _ => .refl store.queue, ?_⟩
  intro later follows
  have reads : choice.now = clock := atClock.1
  change post choice.now later
  rw [reads]
  exact returns later follows

theorem runs_renewing {fail : Exc → Store → Prop}
    (invariant : (leaseDiscipline settings clock claim).inv store) :
    Runs (leaseDiscipline settings clock claim) me (renewLease settings claim)
      (fun again later =>
        (again = true → Covers claim (clock + settings.jobLeaseSeconds)
          later.queue) ∧
        (again = false →
          (later.queue.reports.find? claim.jobId).isSome = true))
      fail store := by
  refine runs_bind (runs_clockNow invariant ?_)
  intro afterFirst first
  refine runs_bind (runs_clockNow first.inv ?_)
  intro afterSecond second
  obtain ⟨wellFormed, covers⟩ := second.inv
  refine runs_atClock ?_
  intro choice
  have effect : Effect settings afterSecond.queue (.queue (.renewLease claim))
      choice (extendLease claim (clock + settings.jobLeaseSeconds) clock
        afterSecond.queue) := .renewed choice claim _ clock
  refine ⟨_, _, rfl, ⟨?_, ?_⟩, ?_, ?_⟩
  · exact effect.wellFormed wellFormed
  · exact covers.extendLease claim clock (by simp)
  · intro other
    exact ⟨effect.evolves, fun time _ late covered =>
      covered.extendLease claim clock late⟩
  · intro later follows
    constructor
    · intro applied
      refine follows.rely.covers _ (by simp) (le_refl _) ?_
      obtain ⟨row, member, holds⟩ := List.any_eq_true.mp applied
      have isClaims : row.jobId = claim.jobId := (heldUnder_iff.mp holds).1
      have found : afterSecond.queue.jobs.find? claim.jobId = some row := by
        rw [← isClaims]
        exact Table.find?_of_mem member
      refine .inr ⟨leaseValues (clock + settings.jobLeaseSeconds) clock row,
        _, ?_, holds, rfl, le_refl _⟩
      simp [extendLease, Table.find?_updateWhere, found, holds]
    · intro missed
      rcases covers with reported | ⟨row, _, found, holds, _⟩
      · obtain ⟨report, here⟩ := Option.isSome_iff_exists.mp reported
        rw [(effect.evolves.trans follows.rely.evolves).report here]
        rfl
      · have applies : afterSecond.queue.jobs.rows.any (heldUnder claim) =
            true :=
          List.any_eq_true.mpr ⟨row, Table.mem_of_find? found, holds⟩
        cases applies.symm.trans missed

theorem runs_beating {execution : Nat} {fail : Exc → Store → Prop}
    (invariant : (leaseDiscipline settings clock claim).inv store) :
    Runs (leaseDiscipline settings clock claim) me
      (heartbeatTurn settings claim execution)
      (fun again later =>
        (again = true → Covers claim (clock + settings.jobLeaseSeconds)
          later.queue) ∧
        (again = false →
          (later.queue.reports.find? claim.jobId).isSome = true))
      fail store := by
  -- No statement raises, so the `except` clause is not reached.
  refine runs_tryCatch ?_
  refine runs_bind (runs_bind (runs_atClock ?_))
  intro choice
  refine ⟨store.queue.reports.find? claim.jobId, store, rfl, invariant,
    fun _ => .refl store.queue, ?_⟩
  intro afterRead read
  cases found : store.queue.reports.find? claim.jobId with
  | none => exact runs_pure _ (runs_renewing read.inv)
  | some report =>
      have stays : ∀ later : Store, Evolves store.queue later.queue →
          (later.queue.reports.find? claim.jobId).isSome = true := by
        intro later evolves
        rw [evolves.report found]
        rfl
      refine runs_bind (runs_clockNow read.inv ?_)
      intro afterClock clocked
      have before := read.rely.trans clocked.rely
      have reported := stays afterClock before.evolves
      refine runs_bind (runs_atClock ?_)
      intro choice
      have effect : Effect settings afterClock.queue
          (.queue (.reconcileJob claim.jobId)) choice
          (completeJob claim.jobId clock afterClock.queue) :=
        .completed choice claim.jobId clock reported
      refine ⟨(), _, rfl, ⟨?_, ?_⟩, ?_, ?_⟩
      · exact effect.wellFormed clocked.inv.1
      · exact clocked.inv.2.completeJob clock reported
      · intro other
        exact .effect effect fun absurd => absurd
      · intro completed follows
        refine runs_bind (runs_internal ?_)
        intro choice _
        refine ⟨follows.inv, fun _ => .refl completed.queue, ?_⟩
        intro last finishes
        refine runs_pure _ ⟨nofun, fun _ => stays last ?_⟩
        exact (before.trans
          ((StillCovered.effect effect fun absurd => absurd).trans
            (follows.rely.trans finishes.rely))).evolves

end Turn

/-! ## Workers in time -/

/-- The heartbeat thread of a block: waiting for its `stop_event` until it
wakes, in the middle of a turn, or at its end. -/
inductive Heart where
  | waiting (wake : Time)
  | beating (turn : Prog university (Except Exc Bool))
  | ended

/-- A worker inside `with job_heartbeat(claim)`. -/
structure Block where
  worker : Nat
  claim : ClaimedJob
  heart : Heart

structure Timed where
  clock : Time
  store : Store
  blocks : List Block

/-- Nothing happens to the heart before that time. -/
def Heart.RestsUntil (later : Time) : Heart → Prop
  | .waiting wake => later ≤ wake
  | .beating _ => False
  | .ended => True

/-- A worker that is in no block calls `claim_next_job` and is answered a
claim. -/
def Timed.Claims (settings : Settings) (state : Timed) (worker : Nat)
    (claim : ClaimedJob) (after : Store) : Prop :=
  (∀ block ∈ state.blocks, block.worker ≠ worker) ∧
    ∃ choices left, (∀ index, AtClock state.clock (choices index)) ∧
      (claimNextJob settings).run.solo worker choices state.store =
        some (.ok (some claim), after, left)

def Timed.setHeart (state : Timed) (index : Nat) (block : Block)
    (heart : Heart) : Timed :=
  { state with blocks := state.blocks.set index { block with heart := heart } }

/-- `elsewhere` is any other committed statement of the application: of a
request, of a worker in no block, of the generation in a block, of a heartbeat
that outlives its block. -/
inductive Step (settings : Settings) (state : Timed) : Timed → Prop where
  | tick (later : Time) (forward : state.clock ≤ later)
      (rest : ∀ block ∈ state.blocks, block.heart.RestsUntil later) :
      Step settings state { state with clock := later }
  | claim (worker : Nat) (claim : ClaimedJob) (after : Store)
      (claims : state.Claims settings worker claim after) :
      Step settings state { state with
        store := after
        blocks := ⟨worker, claim,
          .waiting (state.clock + settings.jobHeartbeatSeconds)⟩ ::
            state.blocks }
  | leave (index : Nat) :
      Step settings state { state with blocks := state.blocks.eraseIdx index }
  | wake (index : Nat) (block : Block) (execution : Nat)
      (inside : state.blocks[index]? = some block)
      (due : block.heart = .waiting state.clock) :
      Step settings state (state.setHeart index block
        (.beating (heartbeatTurn settings block.claim execution).run))
  | beat (index : Nat) (block : Block) (statement : Statement university)
      (next : Nat → Choice → Store → Prog university (Except Exc Bool))
      (choice : Choice) (inside : state.blocks[index]? = some block)
      (beats : block.heart = .beating (.step statement next))
      (ready : statement.ready block.worker choice state.store = true)
      (atClock : AtClock state.clock choice) :
      Step settings state { state.setHeart index block
          (.beating (next block.worker choice state.store)) with
        store := statement.act block.worker choice state.store }
  | again (index : Nat) (block : Block)
      (inside : state.blocks[index]? = some block)
      (returned : block.heart = .beating (.ret (.ok true))) :
      Step settings state (state.setHeart index block
        (.waiting (state.clock + settings.jobHeartbeatSeconds)))
  | finish (index : Nat) (block : Block) (result : Except Exc Bool)
      (inside : state.blocks[index]? = some block)
      (returned : block.heart = .beating (.ret result))
      (last : result ≠ .ok true) :
      Step settings state (state.setHeart index block .ended)
  | elsewhere (label : Label) (choice : Choice) (after : Store)
      (effect : Effect settings state.store.queue label choice after.queue)
      (foreign : ∀ block ∈ state.blocks, ¬ touchesClaim block.claim label) :
      Step settings state { state with store := after }

/-- Any number of steps, from any store with an empty queue. -/
inductive Reached (settings : Settings) : Timed → Prop where
  | start (clock : Time) (store : Store) (empty : store.queue = {}) :
      Reached settings ⟨clock, store, []⟩
  | step {state next : Timed} (before : Reached settings state)
      (step : Step settings state next) : Reached settings next

/-- Whatever a thread of the application commits, other than under the claim
of a block, is such a step. -/
theorem Reached.transition {settings : Settings} {clock : Time}
    {blocks : List Block} {config next : Config university (Except Exc Answer)}
    {thread : Nat} {label : Label} {choice : Choice}
    (reached : Reached settings ⟨clock, config.store, blocks⟩)
    (disciplined : Disciplined (queueDiscipline settings) finishOk config)
    (transition : Transition (queueSystem settings) config
      (.act thread label choice) next)
    (foreign : ∀ block ∈ blocks, ¬ touchesClaim block.claim label) :
    Reached settings ⟨clock, next.store, blocks⟩ := by
  have effect := (disciplined.guaranteed transition trivial).2
  exact reached.step (.elsewhere label choice next.store effect foreign)

/-- A worker claims the job of another worker's block. -/
def Timed.Loses (settings : Settings) (state : Timed) : Prop :=
  ∃ block ∈ state.blocks, ∃ worker claim after,
    state.Claims settings worker claim after ∧
      claim.jobId = block.claim.jobId

/-! ## The claim of a live worker stays covered -/

def turnEnds (settings : Settings) (clock : Time) (claim : ClaimedJob) :
    Except Exc Bool → Store → Prop :=
  outcome (S := university)
    (fun again later =>
      (again = true → Covers claim (clock + settings.jobLeaseSeconds)
        later.queue) ∧
      (again = false →
        (later.queue.reports.find? claim.jobId).isSome = true))
    fun _ _ => False

/-- What the heart of a block knows of its claim. -/
def Heart.Sound (settings : Settings) (clock : Time) (worker : Nat)
    (claim : ClaimedJob) (store : Store) : Heart → Prop
  | .waiting wake => clock ≤ wake ∧ wake ≤ clock + settings.jobLeaseSeconds ∧
      Covers claim wake store.queue
  | .beating turn => Covers claim clock store.queue ∧
      SafeFrom (leaseDiscipline settings clock claim) worker turn
        (turnEnds settings clock claim) store
  | .ended => (store.queue.reports.find? claim.jobId).isSome = true

def Block.Sound (settings : Settings) (clock : Time) (store : Store)
    (block : Block) : Prop :=
  block.heart.Sound settings clock block.worker block.claim store

structure Timed.Sound (settings : Settings) (state : Timed) : Prop where
  wellFormed : WellFormed state.store.queue
  blocks : ∀ block ∈ state.blocks,
    block.Sound settings state.clock state.store

section Invariant

variable {settings : Settings} {clock : Time} {store : Store} {block : Block}

theorem Block.Sound.covers (sound : block.Sound settings clock store) :
    Covers block.claim clock store.queue := by
  unfold Block.Sound Heart.Sound at sound
  split at sound
  · exact sound.2.2.mono sound.1
  · exact sound.1
  · exact .inl sound

/-- At one instant, what does not disturb the claim leaves the heart sound. -/
theorem Block.Sound.undisturbed (sound : block.Sound settings clock store)
    {next : Store}
    (undisturbed : StillCovered settings clock block.claim store.queue
      next.queue) : block.Sound settings clock next := by
  unfold Block.Sound Heart.Sound at sound ⊢
  split at sound
  · obtain ⟨early, late, covers⟩ := sound
    exact ⟨early, late, undisturbed.covers _ early late covers⟩
  · exact ⟨undisturbed.covers _ (le_refl _) (by simp) sound.1,
      sound.2.later undisturbed⟩
  · obtain ⟨report, found⟩ := Option.isSome_iff_exists.mp sound
    rw [undisturbed.evolves.report found]
    rfl

/-- Time passes only over hearts that rest. -/
theorem Block.Sound.tick (sound : block.Sound settings clock store)
    {later : Time} (forward : clock ≤ later)
    (rest : block.heart.RestsUntil later) :
    block.Sound settings later store := by
  unfold Block.Sound at sound ⊢
  cases heart : block.heart with
  | waiting wake =>
      rw [heart] at sound rest
      obtain ⟨_, late, covers⟩ := sound
      exact ⟨rest, by linarith, covers⟩
  | beating turn =>
      rw [heart] at rest
      exact rest.elim
  | ended =>
      rw [heart] at sound
      exact sound

/-- One statement of the turn of a heart. -/
theorem Block.Sound.beat {statement : Statement university}
    {next : Nat → Choice → Store → Prog university (Except Exc Bool)}
    {choice : Choice} (wellFormed : WellFormed store.queue)
    (sound : block.Sound settings clock store)
    (beats : block.heart = .beating (.step statement next))
    (ready : statement.ready block.worker choice store = true)
    (atClock : AtClock clock choice) :
    WellFormed (statement.act block.worker choice store).queue ∧
      (∀ other, StillCovered settings clock other store.queue
        (statement.act block.worker choice store).queue) ∧
      ({ block with heart := .beating (next block.worker choice store) } :
        Block).Sound settings clock
          (statement.act block.worker choice store) := by
  unfold Block.Sound at sound
  rw [beats] at sound
  obtain ⟨kept, guaranteed, continues⟩ :=
    sound.2.now ⟨wellFormed, sound.1⟩ choice ready atClock
  exact ⟨kept.1, guaranteed, kept.2, continues⟩

theorem solo_claimNextJob {me : Nat} {choices : Nat → Choice}
    (atClock : ∀ index, AtClock clock (choices index)) :
    (claimNextJob settings).run.solo me choices store =
      some (match candidate clock (choices 2).lockedJobs store.queue.jobs with
        | none => (.ok none, store, fun index => choices (index + 3))
        | some job =>
            (.ok (some ⟨job.jobId, (choices 1).uuid, job.jobVersion + 1⟩),
              { store with
                queue := claimJob settings clock
                  ⟨job.jobId, (choices 1).uuid, job.jobVersion + 1⟩
                  store.queue },
              fun index => choices (index + 3))) := by
  have call : (choices 2).call = .done := (atClock 2).2
  have reads : (choices 0).now = clock := (atClock 0).1
  rw [← reads]
  change some (answered (choices 2).call
      (match candidate (choices 0).now (choices 2).lockedJobs
        store.queue.jobs with
      | none => _
      | some job => _),
    written (choices 2).call
      (match candidate (choices 0).now (choices 2).lockedJobs
        store.queue.jobs with
      | none => _
      | some job => _) store, _) = _
  rw [call]
  cases candidate (choices 0).now (choices 2).lockedJobs store.queue.jobs with
  | none => rfl
  | some job => rfl

theorem Timed.Claims.candidate {state : Timed} {worker : Nat}
    {claim : ClaimedJob} {after : Store}
    (claims : state.Claims settings worker claim after) :
    ∃ locked job workerToken,
      candidate state.clock locked state.store.queue.jobs = some job ∧
        claim = ⟨job.jobId, workerToken, job.jobVersion + 1⟩ ∧
        after = { state.store with
          queue := claimJob settings state.clock claim state.store.queue } := by
  obtain ⟨_, choices, left, atClock, solo⟩ := claims
  rw [solo_claimNextJob atClock] at solo
  split at solo
  · cases solo
  · rename_i job found
    cases solo
    exact ⟨(choices 2).lockedJobs, job, (choices 1).uuid, found, rfl, rfl⟩

section Steps

variable {state next : Timed}

theorem Timed.Sound.setHeart (sound : state.Sound settings) {index : Nat}
    {heart : Heart}
    (newHeart : ({ block with heart := heart } : Block).Sound settings
      state.clock state.store) :
    (state.setHeart index block heart).Sound settings where
  wellFormed := sound.wellFormed
  blocks other member := by
    rcases List.mem_or_eq_of_mem_set member with old | rfl
    · exact sound.blocks other old
    · exact newHeart

theorem Timed.Sound.claim (sound : state.Sound settings)
    (renews : settings.jobHeartbeatSeconds ≤ settings.jobLeaseSeconds)
    {worker : Nat} {claim : ClaimedJob} {after : Store}
    (claims : state.Claims settings worker claim after) :
    Timed.Sound settings { state with
      store := after
      blocks := ⟨worker, claim,
        .waiting (state.clock + settings.jobHeartbeatSeconds)⟩ ::
          state.blocks } := by
  obtain ⟨locked, job, workerToken, found, rfl, rfl⟩ := claims.candidate
  have lasts : state.clock + (settings.jobHeartbeatSeconds : ℚ) ≤
      state.clock + settings.jobLeaseSeconds := by
    simpa using renews
  refine ⟨sound.wellFormed.claimJob workerToken found, ?_⟩
  intro other member
  rcases List.mem_cons.mp member with rfl | old
  · exact ⟨by simp, lasts, (covers_claimed settings workerToken found).mono lasts⟩
  · refine (sound.blocks other old).undisturbed ⟨.claimJob .., ?_⟩
    intro time early _ covers
    exact covers.claimJob sound.wellFormed settings early workerToken found

theorem Timed.Sound.beat (sound : state.Sound settings) {index : Nat}
    {statement : Statement university}
    {next : Nat → Choice → Store → Prog university (Except Exc Bool)}
    {choice : Choice} (inside : state.blocks[index]? = some block)
    (beats : block.heart = .beating (.step statement next))
    (ready : statement.ready block.worker choice state.store = true)
    (atClock : AtClock state.clock choice) :
    Timed.Sound settings { state.setHeart index block
        (.beating (next block.worker choice state.store)) with
      store := statement.act block.worker choice state.store } := by
  have member : block ∈ state.blocks := List.mem_of_getElem? inside
  obtain ⟨wellFormed, undisturbed, beaten⟩ :=
    (sound.blocks block member).beat sound.wellFormed beats ready atClock
  refine ⟨wellFormed, ?_⟩
  intro other otherMember
  rcases List.mem_or_eq_of_mem_set otherMember with old | rfl
  · exact (sound.blocks other old).undisturbed (undisturbed other.claim)
  · exact beaten

/-- The end of a turn, seen from the state it ends in. -/
theorem Timed.Sound.returned (sound : state.Sound settings) {index : Nat}
    (inside : state.blocks[index]? = some block) {result : Except Exc Bool}
    (returned : block.heart = .beating (.ret result)) :
    turnEnds settings state.clock block.claim result state.store := by
  have here := sound.blocks block (List.mem_of_getElem? inside)
  unfold Block.Sound at here
  rw [returned] at here
  exact here.2.now ⟨sound.wellFormed, here.1⟩

theorem Timed.Sound.step (sound : state.Sound settings)
    (renews : settings.jobHeartbeatSeconds ≤ settings.jobLeaseSeconds)
    (step : Step settings state next) : next.Sound settings := by
  cases step with
  | tick later forward rest =>
      exact ⟨sound.wellFormed, fun block member =>
        (sound.blocks block member).tick forward (rest block member)⟩
  | claim worker claim after claims => exact sound.claim renews claims
  | leave index =>
      exact ⟨sound.wellFormed, fun block member =>
        sound.blocks block (List.mem_of_mem_eraseIdx member)⟩
  | wake index block execution inside due =>
      have covers := (sound.blocks block (List.mem_of_getElem? inside)).covers
      refine sound.setHeart ⟨covers, ?_⟩
      intro later invariant _
      exact runs_beating invariant
  | beat index block statement next choice inside beats ready atClock =>
      exact sound.beat inside beats ready atClock
  | again index block inside returned =>
      have covers := (sound.returned inside returned).1 rfl
      have lasts : state.clock + (settings.jobHeartbeatSeconds : ℚ) ≤
          state.clock + settings.jobLeaseSeconds := by
        simpa using renews
      exact sound.setHeart ⟨by simp, lasts, covers.mono lasts⟩
  | finish index block result inside returned last =>
      have ends := sound.returned inside returned
      refine sound.setHeart ?_
      cases result with
      | error exc => exact ends.elim
      | ok again =>
          cases again with
          | true => exact absurd rfl last
          | false => exact ends.2 rfl
  | elsewhere label choice after effect foreign =>
      exact ⟨effect.wellFormed sound.wellFormed, fun block member =>
        (sound.blocks block member).undisturbed
          (.effect effect (foreign block member))⟩

theorem reached_sound
    (renews : settings.jobHeartbeatSeconds ≤ settings.jobLeaseSeconds)
    (reached : Reached settings state) : state.Sound settings := by
  induction reached with
  | start clock store empty =>
      refine ⟨?_, nofun⟩
      change WellFormed store.queue
      rw [empty]
      exact wellFormed_empty
  | step _ step inductionHypothesis => exact inductionHypothesis.step renews step

theorem Timed.Sound.keeps (sound : state.Sound settings) :
    ¬ state.Loses settings := by
  rintro ⟨block, member, worker, claim, after, claims, same⟩
  obtain ⟨locked, job, workerToken, found, rfl, _⟩ := claims.candidate
  exact (sound.blocks block member).covers.not_candidate sound.wellFormed
    (le_refl _) found same

end Steps

theorem claims_candidate {state : Timed} {worker : Nat}
    (outside : ∀ block ∈ state.blocks, block.worker ≠ worker) {job : Job}
    (found : candidate state.clock [] state.store.queue.jobs = some job) :
    state.Claims settings worker ⟨job.jobId, "", job.jobVersion + 1⟩
      { state.store with
        queue := claimJob settings state.clock
          ⟨job.jobId, "", job.jobVersion + 1⟩ state.store.queue } := by
  refine ⟨outside, fun _ => { now := state.clock },
    fun _ => { now := state.clock }, fun _ => ⟨rfl, rfl⟩, ?_⟩
  have none : ((fun _ => { now := state.clock } : Nat → Choice) 2).lockedJobs =
      [] := rfl
  rw [solo_claimNextJob fun _ => ⟨rfl, rfl⟩, none, found]

end Invariant

/-! ## When the heartbeat is slower than the lease -/

def waitingJob : Job := newJob "job" 1 1 0

def waitingQueue : Queue where
  jobs := Table.empty.insert waitingJob rfl
  exports := [⟨"job", 1, 1, .user, some 1⟩]

/-- One worker generates, and its lease ends between two turns. -/
def generating (settings : Settings) : Timed where
  clock := settings.jobLeaseSeconds + 1 / 2
  store := { queue := claimJob settings 0 ⟨"job", "", 1⟩ waitingQueue }
  blocks := [⟨1, ⟨"job", "", 1⟩, .waiting (0 + settings.jobHeartbeatSeconds)⟩]

theorem generating_reached (settings : Settings)
    (slow : settings.jobLeaseSeconds < settings.jobHeartbeatSeconds) :
    Reached settings (generating settings) := by
  have enqueued : Reached settings ⟨0, { queue := waitingQueue }, []⟩ := by
    refine .step (.start 0 {} rfl)
      (.elsewhere (.queue .exportTranscript) {} _ ?_ nofun)
    exact .exported {} 1 1 "job" ⟨"job", 1, 1, .user, some 1⟩ waitingQueue
      ⟨rfl, rfl, rfl⟩ rfl
  have found : candidate 0 [] waitingQueue.jobs = some waitingJob := rfl
  have outside : ∀ block ∈ ([] : List Block), block.worker ≠ 1 := nofun
  have claims :=
    @claims_candidate settings ⟨0, { queue := waitingQueue }, []⟩ 1 outside
      waitingJob found
  have claimed := enqueued.step (.claim 1 _ _ claims)
  have later : (settings.jobLeaseSeconds : ℚ) + 1 ≤
      settings.jobHeartbeatSeconds := by exact_mod_cast slow
  refine claimed.step (.tick _ ?_ ?_)
  · have lease : (0 : ℚ) ≤ settings.jobLeaseSeconds := Nat.cast_nonneg _
    change (0 : ℚ) ≤ settings.jobLeaseSeconds + 1 / 2
    linarith
  · intro block member
    cases List.mem_singleton.mp member
    change (settings.jobLeaseSeconds : ℚ) + 1 / 2 ≤
      0 + settings.jobHeartbeatSeconds
    linarith

theorem generating_loses (settings : Settings) :
    (generating settings).Loses settings := by
  have expired : (0 : ℚ) + settings.jobLeaseSeconds <
      settings.jobLeaseSeconds + 1 / 2 := by linarith
  have found : candidate (generating settings).clock []
      (generating settings).store.queue.jobs =
        some (claimValues settings 0 "" waitingJob) := by
    have isAbandoned : abandoned (generating settings).clock
        (claimValues settings 0 "" waitingJob) = true := by
      simp [abandoned, claimValues, generating]
    have rows : (generating settings).store.queue.jobs.rows =
        [claimValues settings 0 "" waitingJob] := rfl
    simp [candidate, rows, isAbandoned]
  refine ⟨_, List.mem_singleton_self _, 2, _, _, claims_candidate ?_ found, rfl⟩
  intro block member
  cases List.mem_singleton.mp member
  simp

/-! ## A live worker keeps its lease -/

/-- A worker keeps the job of its block, whatever happens and however long it
generates, exactly if the heartbeat is not slower than the lease. -/
theorem live_worker_keeps_lease (settings : Settings) :
    (∀ state, Reached settings state → ¬ state.Loses settings) ↔
      settings.jobHeartbeatSeconds ≤ settings.jobLeaseSeconds := by
  constructor
  · intro keeps
    by_contra slow
    exact keeps _ (generating_reached settings (not_le.mp slow))
      (generating_loses settings)
  · intro renews state reached
    exact (reached_sound renews reached).keeps

/-- `job_lease_seconds = 5`, everything else as by default. -/
def shortLease : Settings :=
  { Settings.default with jobLeaseSeconds := 5, leaseBound := le_refl 5 }

/-- With that lease and a heartbeat every 30 seconds, the job of a worker that
is still generating is claimed by another one. -/
theorem short_lease_loses_job :
    ∃ state, Reached shortLease state ∧ state.Loses shortLease :=
  ⟨generating shortLease,
    generating_reached shortLease (by decide), generating_loses shortLease⟩

end SystemUni.Workers.Leases
