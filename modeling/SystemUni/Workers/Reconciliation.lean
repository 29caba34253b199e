import SystemUni.Relational.Portions
import SystemUni.Runtime.Rules
import SystemUni.Workers.Tasks

/-!
# Reconciling all jobs at once or one by one

`reconcile_reported_jobs` is one `UPDATE` with a correlated `EXISTS`,
`reconcile_reported_job` a look-up of the report and an `UPDATE` of one row.
Both repair the same rows and leave them different in `updated_at` only.
-/

set_option autoImplicit false

namespace SystemUni.Workers.Reconciliation

open Interleaving Relational
open SystemUni.Runtime.Errors
open SystemUni.Runtime.Statements
open SystemUni.Runtime.Rules
open SystemUni.Models.Jobs
open SystemUni.Workers.Tasks

/-- A job that has a report and is not completed. -/
def Due (queue : Queue) (job : Job) : Prop :=
  (queue.reports.find? job.jobId).isSome = true ∧ job.status ≠ .completed

instance (queue : Queue) (job : Job) : Decidable (Due queue job) :=
  inferInstanceAs (Decidable (_ ∧ _))

/-- `reconcile_reported_job` for one job id after the other. -/
def reconcileEach : List String → Py Unit
  | [] => return ()
  | jobId :: rest => do
      let _ ← reconcileReportedJob jobId
      reconcileEach rest

/-! ## What is left of a repair -/

/-- The store once each scheduled job has been completed at its moment. -/
def completedAt (store : Store) (moments : Job → Option Time) : Store :=
  { store with
    queue := { store.queue with
      jobs := store.queue.jobs.changeRows completeValues completeValues_jobId
        moments } }

theorem rows_completedAt (store : Store) (moments : Job → Option Time) :
    (completedAt store moments).queue.jobs.rows =
      store.queue.jobs.rows.map fun job =>
        Table.changedAt completeValues (moments job) job :=
  Table.rows_changeRows completeValues_jobId

theorem find?_completedAt {store : Store} (moments : Job → Option Time)
    {job : Job} (member : job ∈ store.queue.jobs.rows) :
    (completedAt store moments).queue.jobs.find? job.jobId =
      some (Table.changedAt completeValues (moments job) job) := by
  refine (Table.find?_changeRows completeValues_jobId job.jobId).trans ?_
  rw [Table.find?_of_mem member]
  rfl

/-- The jobs that meet the condition, and no others, have been completed, each
at some moment. -/
def Repaired (repairs : Job → Prop) (store later : Store) : Prop :=
  ∃ moments : Job → Option Time,
    (∀ job ∈ store.queue.jobs.rows,
      (moments job).isSome = true ↔ repairs job) ∧
    later = completedAt store moments

section Repaired

variable {repairs : Job → Prop} {store later : Store}

theorem Repaired.refl (nobody : ∀ job ∈ store.queue.jobs.rows, ¬ repairs job) :
    Repaired repairs store store := by
  refine ⟨fun _ => none, ?_, ?_⟩
  · intro job member
    simpa using nobody job member
  · unfold completedAt
    rw [Table.changeRows_of_none completeValues_jobId fun _ _ => rfl]

theorem repaired_update {condition : Job → Bool} (time : Time)
    (exact : ∀ job ∈ store.queue.jobs.rows,
      condition job = true ↔ repairs job) :
    Repaired repairs store { store with
      queue := { store.queue with
        jobs := store.queue.jobs.updateWhere condition (completeValues time)
          (completeValues_jobId time) } } := by
  refine ⟨fun job => if condition job then some time else none, ?_, ?_⟩
  · intro job member
    rw [← exact job member]
    by_cases applies : condition job = true
    · simp [applies]
    · simp [applies]
  · unfold completedAt
    rw [Table.updateWhere_eq_changeRows completeValues_jobId time]

theorem Repaired.congr {others : Job → Prop}
    (repaired : Repaired repairs store later)
    (alike : ∀ job ∈ store.queue.jobs.rows, repairs job ↔ others job) :
    Repaired others store later := by
  obtain ⟨moments, scheduled, isLater⟩ := repaired
  exact ⟨moments,
    fun job member => (scheduled job member).trans (alike job member), isLater⟩

theorem Repaired.reports (repaired : Repaired repairs store later) :
    later.queue.reports = store.queue.reports := by
  obtain ⟨moments, _, rfl⟩ := repaired
  rfl

/-- One repair after another: a job that is completed is not due again. -/
theorem Repaired.trans {others : Job → Prop} {last : Store}
    (before : Repaired repairs store later) (after : Repaired others later last)
    (pending : ∀ job, others job → job.status ≠ .completed) :
    Repaired (fun job => repairs job ∨ others job) store last := by
  obtain ⟨first, firstScheduled, rfl⟩ := before
  obtain ⟨second, secondScheduled, rfl⟩ := after
  have listed : ∀ job ∈ store.queue.jobs.rows,
      Table.changedAt completeValues (first job) job ∈
        (completedAt store first).queue.jobs.rows := by
    intro job member
    rw [rows_completedAt]
    exact List.mem_map_of_mem member
  refine ⟨fun job => (first job).or (second job), ?_, ?_⟩
  · intro job member
    have here := listed job member
    rw [Option.isSome_or, Bool.or_eq_true, firstScheduled job member]
    cases moment : first job with
    | some time =>
        have repairsIt := (firstScheduled job member).mp (by simp [moment])
        simp [repairsIt]
    | none =>
        rw [moment] at here
        rw [secondScheduled job here]
  · unfold completedAt
    dsimp only
    rw [Table.changeRows_changeRows]
    intro job member time moment
    have here := listed job member
    rw [moment] at here
    apply Option.not_isSome_iff_eq_none.mp
    intro scheduled
    exact pending _ ((secondScheduled _ here).mp scheduled) rfl

/-- Nothing is due, nothing changes. -/
theorem Repaired.eq_of_nobody (repaired : Repaired repairs store later)
    (nobody : ∀ job ∈ store.queue.jobs.rows, ¬ repairs job) : later = store := by
  obtain ⟨moments, scheduled, rfl⟩ := repaired
  unfold completedAt
  rw [Table.changeRows_of_none]
  intro job member
  apply Option.not_isSome_iff_eq_none.mp
  intro isScheduled
  exact nobody job member ((scheduled job member).mp isScheduled)

theorem Repaired.find? (repaired : Repaired repairs store later) {job : Job}
    (member : job ∈ store.queue.jobs.rows) :
    (repairs job → ∃ time, later.queue.jobs.find? job.jobId =
      some (completeValues time job)) ∧
    (¬ repairs job → later.queue.jobs.find? job.jobId = some job) := by
  obtain ⟨moments, scheduled, rfl⟩ := repaired
  rw [find?_completedAt moments member, ← scheduled job member]
  cases moments job with
  | none => simp [Table.changedAt]
  | some time =>
      exact ⟨fun _ => ⟨time, rfl⟩, fun unscheduled => by simp at unscheduled⟩

end Repaired

/-! ## The two paths -/

section Paths

variable {me : Nat} {store : Store}

theorem finishes_reconcileReportedJobs :
    Finishes callSucceeds me reconcileReportedJobs
      (fun count later => count = (reportedJobs store.queue).length ∧
        Repaired (Due store.queue) store later)
      (fun _ _ => False) store := by
  refine finishes_bind (finishes_command fun clock _ => ?_)
  refine finishes_transaction ?_ ?_
  · intro choice count next _ body
    cases body
    refine ⟨rfl, repaired_update clock.now ?_⟩
    intro job _
    simp [Due, isCompleted]
  · intro choice exc _ body
    cases body

theorem finishes_reconcileReportedJob (jobId : String) :
    Finishes callSucceeds me (reconcileReportedJob jobId)
      (fun _ later => Repaired
        (fun job => job.jobId = jobId ∧ Due store.queue job) store later)
      (fun _ _ => False) store := by
  refine finishes_bind (finishes_query ?_)
  cases found : store.queue.reports.find? jobId with
  | none =>
      refine finishes_pure _ (.refl ?_)
      rintro job _ ⟨rfl, reported, _⟩
      rw [found] at reported
      cases reported
  | some report =>
      refine finishes_bind (finishes_command fun clock _ => ?_)
      refine finishes_bind (finishes_transaction ?_ ?_)
      · intro choice done next _ body
        cases body
        refine finishes_pure _ (repaired_update clock.now ?_)
        intro job _
        rw [Bool.and_eq_true, decide_eq_true_eq]
        constructor
        · rintro ⟨rfl, pending⟩
          exact ⟨rfl, by rw [found]; rfl, by simpa [isCompleted] using pending⟩
        · rintro ⟨rfl, _, pending⟩
          exact ⟨rfl, by simpa [isCompleted] using pending⟩
      · intro choice exc _ body
        cases body

theorem finishes_reconcileEach (ids : List String) :
    Finishes callSucceeds me (reconcileEach ids)
      (fun _ later => Repaired
        (fun job => job.jobId ∈ ids ∧ Due store.queue job) store later)
      (fun _ _ => False) store := by
  induction ids generalizing store with
  | nil => exact finishes_pure _ (.refl (by simp))
  | cons jobId rest inductionHypothesis =>
      refine finishes_bind (finishes_mono (finishes_reconcileReportedJob jobId)
        ?_ fun _ _ raised => raised)
      intro _ middle first
      refine finishes_mono inductionHypothesis ?_ fun _ _ raised => raised
      intro _ last others
      refine (first.trans others fun job due => due.2.2).congr ?_
      intro job _
      unfold Due
      rw [first.reports, List.mem_cons]
      tauto

end Paths

/-! ## The two paths agree -/

def withoutUpdatedAt (job : Job) : Job := { job with updatedAt := 0 }

/-- The tables are the same but for `updated_at` of the jobs. -/
structure AgreeUpToUpdatedAt (first second : Store) : Prop where
  jobs : first.queue.jobs.rows.map withoutUpdatedAt =
    second.queue.jobs.rows.map withoutUpdatedAt
  reports : first.queue.reports = second.queue.reports
  db : first.db = second.db

theorem Repaired.agree {repairs others : Job → Prop}
    {store first second : Store} (repaired : Repaired repairs store first)
    (repairedToo : Repaired others store second)
    (alike : ∀ job ∈ store.queue.jobs.rows, repairs job ↔ others job) :
    AgreeUpToUpdatedAt first second := by
  obtain ⟨moments, scheduled, rfl⟩ := repaired
  obtain ⟨otherMoments, otherScheduled, rfl⟩ := repairedToo
  refine ⟨?_, rfl, rfl⟩
  refine Table.map_changeRows completeValues_jobId (fun _ _ _ => rfl) ?_
  intro job member
  apply Bool.eq_iff_iff.mpr
  rw [scheduled job member, otherScheduled job member, alike job member]

/-- Exactly the jobs that have a report and are not completed are changed and
counted, and every job with a report is completed. -/
structure Reconciled (store : Store) (count : Nat) (later : Store) : Prop where
  changed : ∀ job ∈ store.queue.jobs.rows,
    later.queue.jobs.find? job.jobId ≠ some job ↔ Due store.queue job
  counted : count = store.queue.jobs.rows.countP fun job =>
    decide (later.queue.jobs.find? job.jobId ≠ some job)
  jobs : later.queue.jobs.rows.map Job.jobId =
    store.queue.jobs.rows.map Job.jobId
  completed : ∀ job ∈ later.queue.jobs.rows,
    (later.queue.reports.find? job.jobId).isSome = true →
      job.status = .completed
  unreported : ∀ job ∈ store.queue.jobs.rows,
    store.queue.reports.find? job.jobId = none →
      later.queue.jobs.find? job.jobId = some job
  reports : later.queue.reports = store.queue.reports

section Reconciled

variable {store later : Store}

theorem Repaired.changed (repaired : Repaired (Due store.queue) store later)
    {job : Job} (member : job ∈ store.queue.jobs.rows) :
    later.queue.jobs.find? job.jobId ≠ some job ↔ Due store.queue job := by
  obtain ⟨completes, keeps⟩ := repaired.find? member
  constructor
  · intro changed
    by_contra undue
    exact changed (keeps undue)
  · intro due same
    obtain ⟨time, found⟩ := completes due
    rw [found] at same
    have status : (completeValues time job).status = job.status :=
      congrArg Job.status (Option.some.inj same)
    exact due.2 status.symm

theorem Repaired.jobs {repairs : Job → Prop}
    (repaired : Repaired repairs store later) :
    later.queue.jobs.rows.map Job.jobId =
      store.queue.jobs.rows.map Job.jobId := by
  obtain ⟨moments, _, rfl⟩ := repaired
  rw [rows_completedAt, List.map_map]
  apply List.map_congr_left
  intro job _
  exact Table.key_changedAt completeValues_jobId (moments job) job

theorem Repaired.completed (repaired : Repaired (Due store.queue) store later) :
    ∀ job ∈ later.queue.jobs.rows,
      (later.queue.reports.find? job.jobId).isSome = true →
        job.status = .completed := by
  intro next nextMember reported
  rw [repaired.reports] at reported
  have listed : next.jobId ∈ store.queue.jobs.rows.map Job.jobId := by
    rw [← repaired.jobs]
    exact List.mem_map_of_mem nextMember
  obtain ⟨job, member, same⟩ := List.mem_map.mp listed
  have here := Table.find?_of_mem nextMember
  rw [← same] at here reported
  obtain ⟨completes, keeps⟩ := repaired.find? member
  by_cases due : Due store.queue job
  · obtain ⟨time, found⟩ := completes due
    rw [found] at here
    rw [← Option.some.inj here]
    rfl
  · have found := keeps due
    rw [found] at here
    rw [← Option.some.inj here]
    by_contra pending
    exact due ⟨reported, pending⟩

theorem length_reportedJobs (queue : Queue) :
    (reportedJobs queue).length =
      queue.jobs.rows.countP fun job => decide (Due queue job) := by
  rw [reportedJobs, ← List.countP_eq_length_filter]
  apply List.countP_congr
  intro job _
  rw [decide_eq_true_eq]
  simp [Due, isCompleted]

theorem reconciled_of_repaired {count : Nat}
    (counts : count = (reportedJobs store.queue).length)
    (repaired : Repaired (Due store.queue) store later) :
    Reconciled store count later where
  changed _ member := repaired.changed member
  counted := by
    rw [counts, length_reportedJobs]
    apply List.countP_congr
    intro job member
    rw [decide_eq_true_eq, decide_eq_true_eq]
    exact (repaired.changed member).symm
  jobs := repaired.jobs
  completed := repaired.completed
  unreported := by
    intro job member unreported
    refine (repaired.find? member).2 ?_
    rintro ⟨reported, _⟩
    rw [unreported] at reported
    cases reported
  reports := repaired.reports

/-- Every reported job is completed, so none is due. -/
theorem Reconciled.nobody {count : Nat}
    (reconciled : Reconciled store count later) :
    ∀ job ∈ later.queue.jobs.rows, ¬ Due later.queue job := by
  rintro job member ⟨reported, pending⟩
  exact pending (reconciled.completed job member reported)

end Reconciled

/-- `reconcile_reported_jobs` and one `reconcile_reported_job` a job, in any
order, repair the same jobs. -/
theorem reconciliations_agree (me : Nat) (store : Store) :
    Finishes callSucceeds me reconcileReportedJobs
      (fun count repaired =>
        Reconciled store count repaired ∧
        (∀ ids : List String,
          ids.Perm (store.queue.jobs.rows.map Job.jobId) →
            Finishes callSucceeds me (reconcileEach ids)
              (fun _ other => AgreeUpToUpdatedAt other repaired)
              (fun _ _ => False) store) ∧
        Finishes callSucceeds me reconcileReportedJobs
          (fun again last => again = 0 ∧ last = repaired)
          (fun _ _ => False) repaired)
      (fun _ _ => False) store := by
  refine finishes_mono finishes_reconcileReportedJobs ?_
    fun _ _ raised => raised
  rintro count repaired ⟨counts, repairs⟩
  have reconciled := reconciled_of_repaired counts repairs
  refine ⟨reconciled, ?_, ?_⟩
  · intro ids every
    refine finishes_mono (finishes_reconcileEach ids) ?_
      fun _ _ raised => raised
    intro _ other repairsEach
    refine repairsEach.agree repairs ?_
    intro job member
    have listed : job.jobId ∈ ids :=
      every.mem_iff.mpr (List.mem_map_of_mem member)
    exact and_iff_right listed
  · refine finishes_mono finishes_reconcileReportedJobs ?_
      fun _ _ raised => raised
    rintro again last ⟨countsAgain, repairsAgain⟩
    refine ⟨?_, repairsAgain.eq_of_nobody reconciled.nobody⟩
    rw [countsAgain, length_reportedJobs, List.countP_eq_zero]
    intro job member
    simpa using reconciled.nobody job member

end SystemUni.Workers.Reconciliation
