import SystemUni.Workers.Leases

/-!
# Claiming the whole queue

`claim_next_job` called again and again at one time, with nobody else holding
row locks.  The eligible jobs are taken one after the other in the order of the
`SELECT`; a job that has been taken is not eligible at that time.
-/

set_option autoImplicit false

namespace SystemUni.Workers.Claiming

open Interleaving Relational
open SystemUni.Runtime.Errors
open SystemUni.Runtime.Statements
open SystemUni.Runtime.Rules
open SystemUni.Models.Jobs
open SystemUni.Workers.Tasks
open SystemUni.Workers.Queue
open SystemUni.Workers.Leases

/-! ## Eligible jobs -/

/-- Queued and not waiting for a retry, or processing under no lease that
lasts. -/
def Eligible (now : Time) (job : Job) : Prop :=
  (job.status = .queued ∧ ∀ retryAt, job.retryAt = some retryAt →
    retryAt ≤ now) ∨
  (job.status = .processing ∧ ∀ leaseUntil, job.leaseUntil = some leaseUntil →
    leaseUntil < now)

theorem eligible_iff {now : Time} {job : Job} :
    (ready now job || abandoned now job) = true ↔ Eligible now job := by
  rw [Bool.or_eq_true]
  refine or_congr ?_ ?_
  · cases retryAt : job.retryAt <;> simp [ready, retryAt]
  · cases leaseUntil : job.leaseUntil <;> simp [abandoned, leaseUntil]

/-- `retry_at` ascending, with nulls first. -/
inductive RetriedBefore : Option Time → Option Time → Prop where
  | null (retryAt : Time) : RetriedBefore none (some retryAt)
  | earlier {first second : Time} (earlier : first < second) :
      RetriedBefore (some first) (some second)

/-- Queued before processing, then by `retry_at`, then by `created_at`, then by
`job_id`. -/
inductive ClaimedBefore (first second : Job) : Prop where
  | status (queued : first.status = .queued)
      (processing : second.status = .processing)
  | retryAt (status : first.status = second.status)
      (earlier : RetriedBefore first.retryAt second.retryAt)
  | createdAt (status : first.status = second.status)
      (retryAt : first.retryAt = second.retryAt)
      (earlier : first.createdAt < second.createdAt)
  | jobId (status : first.status = second.status)
      (retryAt : first.retryAt = second.retryAt)
      (createdAt : first.createdAt = second.createdAt)
      (earlier : first.jobId < second.jobId)

/-- The eligible jobs of a table, in the order of the claims. -/
structure InClaimOrder (now : Time) (jobs : Table Job.jobId)
    (order : List Job) : Prop where
  once : order.Nodup
  complete : ∀ job, job ∈ order ↔ job ∈ jobs.rows ∧ Eligible now job
  ordered : order.Pairwise ClaimedBefore

theorem retriedBefore_iff {first second : WithBot ℚ} :
    RetriedBefore first second ↔ first < second := by
  constructor
  · rintro (retryAt | earlier)
    · exact WithBot.bot_lt_coe retryAt
    · exact WithBot.coe_lt_coe.mpr earlier
  · intro less
    cases second with
    | bot => exact absurd less not_lt_bot
    | coe second =>
        cases first with
        | bot => exact .null second
        | coe first => exact .earlier (WithBot.coe_lt_coe.mp less)

theorem claimOrder_lt {first second : Job} :
    claimOrder first < claimOrder second ↔
      (first.status = .queued ∧ second.status ≠ .queued) ∨
      (first.status = .queued ↔ second.status = .queued) ∧
        (RetriedBefore first.retryAt second.retryAt ∨
          first.retryAt = second.retryAt ∧
            (first.createdAt < second.createdAt ∨
              first.createdAt = second.createdAt ∧
                first.jobId < second.jobId)) := by
  simp only [claimOrder, Prod.Lex.toLex_lt_toLex]
  refine or_congr ?_ (and_congr ?_ (or_congr retriedBefore_iff.symm Iff.rfl))
  · by_cases queued : first.status = .queued <;>
      by_cases other : second.status = .queued <;> simp [queued, other]
  · by_cases queued : first.status = .queued <;>
      by_cases other : second.status = .queued <;> simp [queued, other]

theorem Eligible.status {now : Time} {job : Job} (eligible : Eligible now job) :
    job.status = .queued ∨ job.status = .processing :=
  eligible.imp And.left And.left

/-- Among eligible jobs the `ORDER BY` is this order. -/
theorem claimedBefore_iff {now : Time} {first second : Job}
    (eligible : Eligible now first) (other : Eligible now second) :
    ClaimedBefore first second ↔ claimOrder first < claimOrder second := by
  rw [claimOrder_lt]
  constructor
  · rintro (⟨queued, processing⟩ | ⟨status, earlier⟩ |
      ⟨status, retryAt, earlier⟩ | ⟨status, retryAt, createdAt, earlier⟩)
    · exact .inl ⟨queued, by simp [processing]⟩
    · exact .inr ⟨by rw [status], .inl earlier⟩
    · exact .inr ⟨by rw [status], .inr ⟨retryAt, .inl earlier⟩⟩
    · exact .inr ⟨by rw [status],
        .inr ⟨retryAt, .inr ⟨createdAt, earlier⟩⟩⟩
  · rintro (⟨queued, notQueued⟩ | ⟨alike, rest⟩)
    · exact .status queued (other.status.resolve_left notQueued)
    · have status : first.status = second.status := by
        rcases eligible.status with queued | processing
        · rw [queued, alike.mp queued]
        · rcases other.status with queued | others
          · rw [queued, alike.mpr queued]
          · rw [processing, others]
      rcases rest with earlier | ⟨retryAt, earlier | ⟨createdAt, earlier⟩⟩
      · exact .retryAt status earlier
      · exact .createdAt status retryAt earlier
      · exact .jobId status retryAt createdAt earlier

theorem claimOrder_jobId {first second : Job}
    (same : claimOrder first = claimOrder second) :
    first.jobId = second.jobId := by
  have afterStatus := (Prod.ext_iff.mp (toLex.injective same)).2
  have afterRetry := (Prod.ext_iff.mp (toLex.injective afterStatus)).2
  exact (Prod.ext_iff.mp (toLex.injective afterRetry)).2

/-- The `SELECT` answers none of the eligible jobs only if there are none, and
otherwise the least of them. -/
theorem candidate_least {now : Time} {jobs : Table Job.jobId} {other : Job}
    (member : other ∈ jobs.rows) (eligible : Eligible now other) :
    ∃ job, candidate now [] jobs = some job ∧
      claimOrder job ≤ claimOrder other := by
  have among : other ∈ jobs.rows.filter fun job =>
      (ready now job || abandoned now job) && !([] : List String).contains
        job.jobId := by
    simpa [member] using eligible_iff.mpr eligible
  have sorted := List.pairwise_insertionSort
    (fun first second : Job => claimOrder first ≤ claimOrder second)
    (jobs.rows.filter fun job =>
      (ready now job || abandoned now job) && !([] : List String).contains
        job.jobId)
  have listed := (List.mem_insertionSort
    fun first second : Job => claimOrder first ≤ claimOrder second).mpr among
  unfold candidate
  cases order : (jobs.rows.filter fun job =>
      (ready now job || abandoned now job) && !([] : List String).contains
        job.jobId).insertionSort
      fun first second => claimOrder first ≤ claimOrder second with
  | nil =>
      rw [order] at listed
      cases listed
  | cons job rest =>
      rw [order] at listed sorted
      refine ⟨job, rfl, ?_⟩
      rcases List.mem_cons.mp listed with rfl | later
      · exact le_refl _
      · exact (List.pairwise_cons.mp sorted).1 other later

theorem candidate_eligible {now : Time} {jobs : Table Job.jobId} {job : Job}
    (found : candidate now [] jobs = some job) :
    job ∈ jobs.rows ∧ Eligible now job := by
  obtain ⟨member, eligible, _⟩ := candidate_some found
  exact ⟨member, eligible_iff.mp (by simpa using eligible)⟩

section Order

variable {now : Time} {jobs : Table Job.jobId}

theorem candidate_of_empty (order : InClaimOrder now jobs []) :
    candidate now [] jobs = none := by
  cases found : candidate now [] jobs with
  | none => rfl
  | some job =>
      have listed := (order.complete job).mpr (candidate_eligible found)
      simp at listed

theorem candidate_of_cons {job : Job} {rest : List Job}
    (order : InClaimOrder now jobs (job :: rest)) :
    candidate now [] jobs = some job := by
  obtain ⟨member, eligible⟩ := (order.complete job).mp List.mem_cons_self
  obtain ⟨first, found, least⟩ := candidate_least member eligible
  have listed := (order.complete first).mpr (candidate_eligible found)
  rcases List.mem_cons.mp listed with rfl | later
  · exact found
  · have before := (List.pairwise_cons.mp order.ordered).1 first later
    have after := (claimedBefore_iff eligible
      (candidate_eligible found).2).mp before
    exact absurd least (not_le.mpr after)

theorem inClaimOrder_exists (now : Time) (jobs : Table Job.jobId) :
    ∃ order, InClaimOrder now jobs order := by
  let eligible := jobs.rows.filter fun job => ready now job || abandoned now job
  let before := fun first second : Job => claimOrder first ≤ claimOrder second
  have nodup : (eligible.insertionSort before).Nodup :=
    (List.perm_insertionSort before eligible).nodup_iff.mpr
      (jobs.nodup.of_map.filter _)
  have complete : ∀ job, job ∈ eligible.insertionSort before ↔
      job ∈ jobs.rows ∧ Eligible now job := by
    intro job
    rw [List.mem_insertionSort, List.mem_filter, eligible_iff]
  refine ⟨eligible.insertionSort before, nodup, complete, ?_⟩
  refine ((List.pairwise_insertionSort before eligible).and nodup).imp_of_mem ?_
  rintro first second firstListed secondListed ⟨least, different⟩
  obtain ⟨member, eligible⟩ := (complete first).mp firstListed
  obtain ⟨otherMember, otherEligible⟩ := (complete second).mp secondListed
  refine (claimedBefore_iff eligible otherEligible).mpr
    (lt_of_le_of_ne least fun same => different ?_)
  exact jobs.eq_of_key_eq member otherMember (claimOrder_jobId same)

theorem not_eligible_claimed (settings : Settings) (workerToken : String)
    (job : Job) : ¬ Eligible now (claimValues settings now workerToken job) := by
  rintro (⟨queued, _⟩ | ⟨_, ended⟩)
  · cases queued
  · have lease := ended _ rfl
    have bound : (5 : ℚ) ≤ settings.jobLeaseSeconds := by
      exact_mod_cast settings.leaseBound
    linarith

/-- The claim of the first job leaves the others, in their order. -/
theorem InClaimOrder.tail {settings : Settings} {queue : Queue} {job : Job}
    {rest : List Job} (order : InClaimOrder now queue.jobs (job :: rest))
    {claim : ClaimedJob} (claimed : claim.jobId = job.jobId) :
    InClaimOrder now (claimJob settings now claim queue).jobs rest := by
  obtain ⟨absent, once⟩ := List.nodup_cons.mp order.once
  refine ⟨once, ?_, (List.pairwise_cons.mp order.ordered).2⟩
  obtain ⟨member, _⟩ := (order.complete job).mp List.mem_cons_self
  intro other
  constructor
  · intro listed
    obtain ⟨otherMember, eligible⟩ :=
      (order.complete other).mp (List.mem_cons_of_mem _ listed)
    have different : other.jobId ≠ claim.jobId := by
      intro same
      have isJob := queue.jobs.eq_of_key_eq otherMember member
        (same.trans claimed)
      exact absent (isJob ▸ listed)
    refine ⟨(Table.mem_updateWhere (claimValues_jobId _ _ _)).mpr
      ⟨other, otherMember, ?_⟩, eligible⟩
    simp [different]
  · rintro ⟨otherMember, eligible⟩
    obtain ⟨old, oldMember, becomes⟩ :=
      (Table.mem_updateWhere (claimValues_jobId _ _ _)).mp otherMember
    split at becomes
    · rw [← becomes] at eligible
      exact absurd eligible (not_eligible_claimed settings _ old)
    · rename_i another
      subst becomes
      rcases List.mem_cons.mp ((order.complete old).mpr ⟨oldMember, eligible⟩)
        with rfl | listed
      · simp [claimed] at another
      · exact listed

end Order

/-! ## One call -/

/-- One time, every call to the database succeeds, nobody else holds row
locks, and the identifiers drawn are of this kind. -/
structure OneTime (now : Time) (drawn : String → Prop)
    (choice : Choice) : Prop where
  atClock : AtClock now choice
  unlocked : choice.lockedJobs = []
  drawn : drawn choice.uuid

/-- What one call answers and writes: nothing, or the claim of the row it
changes. -/
inductive ClaimsOne (now : Time) (drawn : String → Prop) (store : Store) :
    Except Exc (Option ClaimedJob) → Store → Prop where
  | nothing : ClaimsOne now drawn store (.ok none) store
  | job (job : Job) (workerToken : String) (leaseUntil : Time) (last : Store)
      (found : store.queue.jobs.find? job.jobId = some job)
      (fresh : drawn workerToken) (lasts : now < leaseUntil)
      (changed : last.queue.jobs.find? job.jobId = some { job with
        status := .processing
        workerToken := some workerToken
        jobVersion := job.jobVersion + 1
        attemptCount := job.attemptCount + 1
        leaseUntil := some leaseUntil
        retryAt := none
        lastError := none
        updatedAt := now })
      (others : ∀ jobId, jobId ≠ job.jobId →
        last.queue.jobs.find? jobId = store.queue.jobs.find? jobId)
      (reports : last.queue.reports = store.queue.reports)
      (elsewhere : { last with queue := store.queue } = store) :
      ClaimsOne now drawn store
        (.ok (some ⟨job.jobId, workerToken, job.jobVersion + 1⟩)) last

abbrev oneTime (now : Time) (drawn : String → Prop) :
    Condition university :=
  Condition.allowing (OneTime now drawn)

/-- One execution of `claim_next_job`. -/
abbrev Call (settings : Settings) (now : Time) (drawn : String → Prop)
    (me : Nat) (store : Store) (answer : Except Exc (Option ClaimedJob))
    (last : Store) : Prop :=
  Evaluates (oneTime now drawn) me (claimNextJob settings).run store answer
    last

section Call

variable {settings : Settings} {now : Time} {drawn : String → Prop} {me : Nat}
  {store last : Store} {answer : Except Exc (Option ClaimedJob)}

theorem risky_oneTime {label : Label} :
    ¬ Risky (oneTime now drawn) label store := by
  rintro ⟨choice, calm, failed⟩
  exact failed calm.atClock.2

theorem call_cases (call : Call settings now drawn me store answer last) :
    (candidate now [] store.queue.jobs = none ∧ answer = .ok none ∧
      last = store) ∨
    ∃ job workerToken, candidate now [] store.queue.jobs = some job ∧
      drawn workerToken ∧
      answer = .ok (some ⟨job.jobId, workerToken, job.jobVersion + 1⟩) ∧
      last = { store with
        queue := claimJob settings now
          ⟨job.jobId, workerToken, job.jobVersion + 1⟩ store.queue } := by
  have yields : Yields (oneTime now drawn) me (claimNextJob settings)
      (fun claim later =>
        (candidate now [] store.queue.jobs = none ∧ claim = none ∧
          later = store) ∨
        ∃ job workerToken, candidate now [] store.queue.jobs = some job ∧
          drawn workerToken ∧
          claim = some ⟨job.jobId, workerToken, job.jobVersion + 1⟩ ∧
          later = { store with
            queue := claimJob settings now
              ⟨job.jobId, workerToken, job.jobVersion + 1⟩ store.queue })
      (fun _ _ => False) store := by
    refine yields_bind (yields_internal fun clock atClock => ?_)
    refine yields_bind (yields_internal fun draw drew => ?_)
    refine yields_transaction (fun _ _ => risky_oneTime) ?_ ?_
    · intro choice claim next calm body
      refine ⟨?_, fun _ _ risky => risky_oneTime risky⟩
      rw [calm.unlocked, atClock.atClock.1] at body
      cases found : candidate now [] store.queue.jobs with
      | none =>
          rw [found] at body
          cases body
          exact .inl ⟨rfl, rfl, rfl⟩
      | some job =>
          rw [found] at body
          cases body
          exact .inr ⟨job, draw.uuid, rfl, drew.drawn, rfl, rfl⟩
    · intro choice exc _ body
      split at body <;> cases body
  have holds := call.ensured yields
  cases answer with
  | error exc => exact holds.elim
  | ok claim =>
      rcases holds with ⟨nobody, rfl, same⟩ |
        ⟨job, workerToken, found, fresh, rfl, same⟩
      · exact .inl ⟨nobody, rfl, same⟩
      · exact .inr ⟨job, workerToken, found, fresh, rfl, same⟩

theorem call_exists (settings : Settings) (now : Time) (me : Nat)
    (store : Store) {uuid : String} (fresh : drawn uuid) :
    ∃ answer last, Call settings now drawn me store answer last := by
  have calm : OneTime now drawn { now := now, uuid := uuid } :=
    ⟨⟨rfl, rfl⟩, rfl, fresh⟩
  have runs := @solo_claimNextJob settings now store me
    (fun _ => { now := now, uuid := uuid }) fun _ => calm.atClock
  cases found : candidate now [] store.queue.jobs with
  | none =>
      rw [show ({ now := now, uuid := uuid } : Choice).lockedJobs = [] from rfl,
        found] at runs
      exact ⟨_, _, evaluates_of_solo _ _ (fun _ _ _ => calm) runs⟩
  | some job =>
      rw [show ({ now := now, uuid := uuid } : Choice).lockedJobs = [] from rfl,
        found] at runs
      exact ⟨_, _, evaluates_of_solo _ _ (fun _ _ _ => calm) runs⟩

theorem call_claimsOne (call : Call settings now drawn me store answer last) :
    ClaimsOne now drawn store answer last := by
  rcases call_cases call with ⟨_, rfl, rfl⟩ |
    ⟨job, workerToken, found, fresh, rfl, rfl⟩
  · exact .nothing
  · have here := Table.find?_of_mem (candidate_some found).1
    have bound : (5 : ℚ) ≤ settings.jobLeaseSeconds := by
      exact_mod_cast settings.leaseBound
    refine .job job workerToken (now + settings.jobLeaseSeconds) _ here fresh
      (by linarith) ?_ ?_ rfl rfl
    · simp [claimJob, Table.find?_updateWhere, here, claimValues]
    · intro jobId different
      exact Table.find?_updateWhere_other _ _ (claimValues_jobId _ _ _)
        different

end Call

/-! ## All calls at one time -/

/-- Calls one after the other, with what they answer. -/
inductive Calls (settings : Settings) (now : Time) (drawn : String → Prop) :
    Store → List (Except Exc (Option ClaimedJob)) → Store → Prop where
  | none (store : Store) : Calls settings now drawn store [] store
  | call (me : Nat) {first middle last : Store}
      {answer : Except Exc (Option ClaimedJob)}
      {answers : List (Except Exc (Option ClaimedJob))}
      (one : Call settings now drawn me first answer middle)
      (others : Calls settings now drawn middle answers last) :
      Calls settings now drawn first (answer :: answers) last

/-- The claim of this job, or nothing when there is none. -/
def ClaimOf : Option Job → Except Exc (Option ClaimedJob) → Prop
  | none, answer => answer = .ok none
  | some job, answer => ∃ workerToken,
      answer = .ok (some ⟨job.jobId, workerToken, job.jobVersion + 1⟩)

/-- The calls answer the jobs of the order one by one, and then nothing. -/
theorem calls_in_order {settings : Settings} {now : Time}
    {drawn : String → Prop} {first last : Store}
    {answers : List (Except Exc (Option ClaimedJob))}
    (calls : Calls settings now drawn first answers last) {order : List Job}
    (listed : InClaimOrder now first.queue.jobs order) :
    ∀ (index : Nat) answer, answers[index]? = some answer →
      ClaimOf order[index]? answer := by
  induction calls generalizing order with
  | none store =>
      intro index answer there
      simp at there
  | @call me first middle last answer answers one others inductionHypothesis =>
      intro index wanted there
      cases order with
      | nil =>
          have nobody := candidate_of_empty listed
          rcases call_cases one with ⟨_, rfl, rfl⟩ | ⟨job, _, found, _⟩
          · cases index with
            | zero =>
                cases there
                rfl
            | succ index =>
                simpa using inductionHypothesis listed index wanted there
          · rw [nobody] at found
            cases found
      | cons job rest =>
          have isFirst := candidate_of_cons listed
          rcases call_cases one with ⟨nobody, _⟩ |
            ⟨taken, workerToken, found, _, rfl, rfl⟩
          · rw [isFirst] at nobody
            cases nobody
          · rw [isFirst] at found
            cases found
            cases index with
            | zero =>
                cases there
                exact ⟨workerToken, rfl⟩
            | succ index =>
                exact inductionHypothesis (listed.tail rfl) index wanted there

/-- `claim_next_job` takes every eligible job once and in order, changes the
row it takes only, and leaves no job that could never be taken. -/
theorem claims_complete_and_ordered (settings : Settings) (now : Time)
    (store : Store) :
    (∃ order, InClaimOrder now store.queue.jobs order ∧
      ∀ drawn answers last, Calls settings now drawn store answers last →
        ∀ (index : Nat) answer, answers[index]? = some answer →
          ClaimOf order[index]? answer) ∧
    (∀ drawn : String → Prop, (∃ uuid, drawn uuid) → ∀ me before,
      (∃ answer after, Call settings now drawn me before answer after) ∧
      ∀ answer after, Call settings now drawn me before answer after →
        ClaimsOne now drawn before answer after) ∧
    ∀ job : Job,
      (job.status = .queued → ∀ later,
        (∀ retryAt, job.retryAt = some retryAt → retryAt < later) →
          Eligible later job) ∧
      (job.status = .processing → ∀ later,
        (∀ leaseUntil, job.leaseUntil = some leaseUntil →
          leaseUntil < later) → Eligible later job) := by
  refine ⟨?_, ?_, ?_⟩
  · obtain ⟨order, listed⟩ := inClaimOrder_exists now store.queue.jobs
    refine ⟨order, listed, ?_⟩
    intro drawn answers last calls
    exact calls_in_order calls listed
  · rintro drawn ⟨uuid, fresh⟩ me before
    refine ⟨call_exists settings now me before fresh, ?_⟩
    intro answer after call
    exact call_claimsOne call
  · intro job
    constructor
    · intro queued later after
      exact .inl ⟨queued, fun retryAt isRetry => (after retryAt isRetry).le⟩
    · intro processing later after
      exact .inr ⟨processing, after⟩

end SystemUni.Workers.Claiming
