import SystemUni.Workers.Frame
import SystemUni.Workers.Queue

/-!
# An execution beside its heartbeat

What the heartbeat threads of one execution do to the store, as a relation that
the execution may rely on: as long as there is no report the job row changes in
its lease only.  Whatever leaves the job, its report, the events and the inputs
of the transcript alone may run besides.
-/

set_option autoImplicit false

namespace SystemUni.Workers.Heartbeats

open Interleaving Relational
open SystemUni.Runtime.Errors
open SystemUni.Runtime.Statements
open SystemUni.Runtime.Rules
open SystemUni.Models.Rows
open SystemUni.Models.Jobs
open SystemUni.Workers.Tasks
open SystemUni.Workers.Queue

/-! ## Rows -/

/-- What becomes of the job row: its lease is renewed while the claim holds it,
and it is completed once it is reported. -/
def Beaten (claim : ClaimedJob) (reported : Bool) (row next : Job) : Prop :=
  next = row ∨
  (heldUnder claim row = true ∧
    ∃ leaseUntil updatedAt, next = leaseValues leaseUntil updatedAt row) ∨
  (reported = true ∧ row.status ≠ .completed)

theorem Beaten.trans {claim : ClaimedJob} {reported : Bool}
    {first middle last : Job} (before : Beaten claim reported first middle)
    (after : Beaten claim reported middle last) :
    Beaten claim reported first last := by
  rcases before with rfl | ⟨holds, leaseUntil, updatedAt, rfl⟩ | changed
  · exact after
  · have processing := (heldUnder_iff.mp holds).2.1
    rcases after with rfl | ⟨_, laterLease, laterUpdate, rfl⟩ | ⟨known, _⟩
    · exact .inr (.inl ⟨holds, leaseUntil, updatedAt, rfl⟩)
    · exact .inr (.inl ⟨holds, laterLease, laterUpdate, rfl⟩)
    · refine .inr (.inr ⟨known, ?_⟩)
      rw [processing]
      nofun
  · exact .inr (.inr changed)

/-- A row that no claim holds stays as it is while there is no report. -/
theorem Beaten.rests {claim : ClaimedJob} {reported : Bool} {row next : Job}
    (beaten : Beaten claim reported row next)
    (settled : row.status ≠ .processing)
    (completed : reported = true → row.status = .completed) : next = row := by
  rcases beaten with same | ⟨holds, _⟩ | ⟨known, unfinished⟩
  · exact same
  · exact absurd (heldUnder_iff.mp holds).2.1 settled
  · exact absurd (completed known) unfinished

def rowsOf (queue : Queue) (jobId : String) : Option Job × Option Report :=
  (queue.jobs.find? jobId, queue.reports.find? jobId)

/-- The rows `generate_student_transcript` reads. -/
def transcriptInputs (targetId : Id) (store : Store) :
    Option Student × List Enrollment :=
  (store.db.tables.students.find? targetId,
    store.db.tables.enrollments.rows.filter fun row =>
      decide (row.studentId = targetId))

theorem find?_updateWhere_elsewhere {jobs : Table Job.jobId}
    {condition : Job → Bool} {change : Job → Job}
    (same : ∀ job, (change job).jobId = job.jobId) {jobId other : String}
    (only : ∀ row, condition row = true → row.jobId = jobId)
    (different : other ≠ jobId) :
    (jobs.updateWhere condition change same).find? other = jobs.find? other := by
  cases found : jobs.find? other with
  | none =>
      rw [Table.find?_updateWhere, found]
      rfl
  | some row =>
      refine Table.find?_updateWhere_skip same found ?_
      by_contra applies
      have isJob := only row (by simpa using applies)
      exact different ((Table.key_of_find? found).symm.trans isJob)

/-! ## The relation -/

section Follows

variable (claim : ClaimedJob) (kept : String → Prop) (targetId : Id)

/-- What others may have done since: `kept` are the jobs that nobody else
works on. -/
structure Follows (before after : Store) : Prop where
  report : after.queue.reports.find? claim.jobId =
    before.queue.reports.find? claim.jobId
  row : ∀ row, before.queue.jobs.find? claim.jobId = some row →
    ∃ next, after.queue.jobs.find? claim.jobId = some next ∧
      Beaten claim (before.queue.reports.find? claim.jobId).isSome row next
  others : ∀ jobId, kept jobId → jobId ≠ claim.jobId →
    rowsOf after.queue jobId = rowsOf before.queue jobId
  inputs : transcriptInputs targetId after = transcriptInputs targetId before
  found : (after.events 0).reportFound = true →
    (before.events 0).reportFound = true ∨
      (before.queue.reports.find? claim.jobId).isSome = true

variable {claim kept targetId}

theorem Follows.refl (store : Store) :
    Follows claim kept targetId store store where
  report := rfl
  row row found := ⟨row, found, .inl rfl⟩
  others _ _ _ := rfl
  inputs := rfl
  found seen := .inl seen

theorem Follows.trans {first middle last : Store}
    (before : Follows claim kept targetId first middle)
    (after : Follows claim kept targetId middle last) :
    Follows claim kept targetId first last where
  report := after.report.trans before.report
  row := by
    intro row found
    obtain ⟨next, nextFound, beaten⟩ := before.row row found
    obtain ⟨last, lastFound, later⟩ := after.row next nextFound
    rw [before.report] at later
    exact ⟨last, lastFound, beaten.trans later⟩
  others jobId isKept different :=
    (after.others jobId isKept different).trans
      (before.others jobId isKept different)
  inputs := after.inputs.trans before.inputs
  found := by
    intro seen
    rcases after.found seen with earlier | reported
    · exact before.found earlier
    · rw [before.report] at reported
      exact .inr reported

/-- All that the relation speaks about. -/
def watched (claim : ClaimedJob) (kept : String → Prop) (targetId : Id)
    (store : Store) : Bool ×
      ({ jobId // jobId = claim.jobId ∨ kept jobId } →
        Option Job × Option Report) × (Option Student × List Enrollment) :=
  ((store.events 0).reportFound, fun jobId => rowsOf store.queue jobId,
    transcriptInputs targetId store)

theorem follows_of_watched {before after : Store}
    (same : watched claim kept targetId after =
      watched claim kept targetId before) :
    Follows claim kept targetId before after := by
  obtain ⟨seen, rest⟩ := Prod.ext_iff.mp same
  obtain ⟨rows, inputs⟩ := Prod.ext_iff.mp rest
  have rowsAt : ∀ jobId, jobId = claim.jobId ∨ kept jobId →
      rowsOf after.queue jobId = rowsOf before.queue jobId :=
    fun jobId isWatched => congrFun rows ⟨jobId, isWatched⟩
  obtain ⟨jobSame, reportSame⟩ := Prod.ext_iff.mp (rowsAt _ (.inl rfl))
  refine ⟨reportSame, ?_, ?_, inputs, ?_⟩
  · intro row found
    exact ⟨row, jobSame.trans found, .inl rfl⟩
  · intro jobId isKept _
    exact rowsAt jobId (.inr isKept)
  · intro flagged
    exact .inl (seen.symm.trans flagged)

/-! ## The steps of a heartbeat -/

variable {store : Store}

theorem follows_update {condition : Job → Bool} {change : Job → Job}
    (same : ∀ job, (change job).jobId = job.jobId)
    (only : ∀ row, condition row = true → row.jobId = claim.jobId)
    (beats : ∀ row, condition row = true →
      Beaten claim (store.queue.reports.find? claim.jobId).isSome row
        (change row)) :
    Follows claim kept targetId store { store with
      queue := { store.queue with
        jobs := store.queue.jobs.updateWhere condition change same } } where
  report := rfl
  row := by
    intro row found
    refine ⟨if condition row then change row else row, ?_, ?_⟩
    · exact (Table.find?_updateWhere _ condition change same _).trans
        (congrArg _ found)
    · split
      · rename_i applies
        exact beats row applies
      · exact .inl rfl
  others jobId _ different :=
    Prod.ext (find?_updateWhere_elsewhere same only different) rfl
  inputs := rfl
  found seen := .inl seen

theorem follows_complete (now : Time)
    (reported : (store.queue.reports.find? claim.jobId).isSome = true) :
    Follows claim kept targetId store
      { store with queue := completeJob claim.jobId now store.queue } := by
  refine follows_update (completeValues_jobId now) ?_ ?_
  · intro row applies
    exact of_decide_eq_true (Bool.and_eq_true_iff.mp applies).1
  · intro row applies
    refine .inr (.inr ⟨reported, ?_⟩)
    simpa [isCompleted] using (Bool.and_eq_true_iff.mp applies).2

theorem follows_renew (leaseUntil updatedAt : Time) :
    Follows claim kept targetId store
      { store with
        queue := extendLease claim leaseUntil updatedAt store.queue } := by
  refine follows_update (leaseValues_jobId leaseUntil updatedAt) ?_ ?_
  · intro row holds
    exact (heldUnder_iff.mp holds).1
  · intro row holds
    exact .inr (.inl ⟨holds, leaseUntil, updatedAt, rfl⟩)

theorem follows_flag (execution : Nat) (events : Events)
    (reported : (store.queue.reports.find? claim.jobId).isSome = true) :
    Follows claim kept targetId store (store.setEvents execution events) where
  report := rfl
  row row found := ⟨row, found, .inl rfl⟩
  others _ _ _ := rfl
  inputs := rfl
  found _ := .inr reported

end Follows

/-! ## The discipline -/

/-- A report that is there stays. -/
def Persists (claim : ClaimedJob) (before after : Store) : Prop :=
  ∀ report, before.queue.reports.find? claim.jobId = some report →
    after.queue.reports.find? claim.jobId = some report

theorem Follows.persists {claim : ClaimedJob} {kept : String → Prop}
    {targetId : Id} {before after : Store}
    (follows : Follows claim kept targetId before after) :
    Persists claim before after :=
  fun _ found => follows.report.trans found

/-- Thread 0 is the execution; all that the others know of it is that it takes
no report back. -/
def executionDiscipline (claim : ClaimedJob) (kept : String → Prop)
    (targetId : Id) (condition : Condition university) :
    Discipline university where
  inv _ := True
  rely me before after :=
    if me = 0 then Follows claim kept targetId before after
    else Persists claim before after
  guar me _ _ before after :=
    if me = 0 then Persists claim before after
    else Follows claim kept targetId before after
  ok := condition
  rely_refl me store := by
    split
    · exact .refl store
    · exact fun _ found => found
  rely_trans me first middle last before after := by
    split
    · rename_i isExecution
      rw [if_pos isExecution] at before after
      exact before.trans after
    · rename_i isOther
      rw [if_neg isOther] at before after
      exact fun report found => after report (before report found)
  guar_rely := by
    intro me other label choice before after different guaranteed
    by_cases isExecution : me = 0
    · rw [if_pos isExecution] at guaranteed
      rw [if_neg (fun same => different (isExecution.trans same.symm))]
      exact guaranteed
    · rw [if_neg isExecution] at guaranteed
      split
      · exact guaranteed
      · exact guaranteed.persists

section Discipline

variable {claim : ClaimedJob} {kept : String → Prop} {targetId : Id}
  {condition : Condition university} {me : Nat} {store : Store}

theorem execution_stutters :
    Stutters (executionDiscipline claim kept targetId condition) := by
  intro me label choice store _
  change if me = 0 then Persists claim store store
    else Follows claim kept targetId store store
  split
  · exact fun _ found => found
  · exact .refl store

theorem guar_of_follows {label : Label} {choice : Choice} {next : Store}
    (follows : Follows claim kept targetId store next) :
    (executionDiscipline claim kept targetId condition).guar me label choice
      store next := by
  change if me = 0 then Persists claim store next
    else Follows claim kept targetId store next
  split
  · exact follows.persists
  · exact follows

theorem rely_of_follows {next : Store}
    (follows : Follows claim kept targetId store next) :
    (executionDiscipline claim kept targetId condition).rely me store next := by
  change if me = 0 then Follows claim kept targetId store next
    else Persists claim store next
  split
  · exact follows
  · exact follows.persists

theorem persists_of_later {later : Store}
    (follows : Later (executionDiscipline claim kept targetId condition) me
      store later) : Persists claim store later := by
  have rely := follows.rely
  change if me = 0 then Follows claim kept targetId store later
    else Persists claim store later at rely
  split at rely
  · exact rely.persists
  · exact rely

/-! ## The heartbeat keeps to it -/

theorem runs_beat_reconcile {post : Option Report → Store → Prop}
    {fail : Exc → Store → Prop} (raises : ∀ exc later, fail exc later)
    (returns : ∀ report later,
      (report.isSome = true →
        (later.queue.reports.find? claim.jobId).isSome = true) →
      post report later) :
    Runs (executionDiscipline claim kept targetId condition) me
      (reconcileReportedJob claim.jobId) post fail store := by
  refine runs_bind (runs_query execution_stutters trivial
    (fun exc later _ => raises exc later) ?_)
  intro afterRead read
  cases found : store.queue.reports.find? claim.jobId with
  | none => exact runs_pure _ (returns none afterRead nofun)
  | some report =>
      have here := persists_of_later read report found
      refine runs_bind (runs_observe execution_stutters trivial ?_)
      intro choice afterClock clock
      have still := persists_of_later clock report here
      refine runs_bind (runs_transaction execution_stutters trivial
        (fun exc later _ => raises exc later) ?_)
      intro updating value next _ result
      cases result
      refine ⟨trivial, guar_of_follows
        (follows_complete choice.now (by rw [still]; rfl)), ?_⟩
      intro later follows
      refine ⟨runs_pure _ (returns _ later fun _ => ?_),
        fun exc => raises exc later⟩
      rw [persists_of_later follows report still]
      rfl

theorem runs_beat_renew {settings : Settings} {post : Bool → Store → Prop}
    {fail : Exc → Store → Prop} (raises : ∀ exc later, fail exc later)
    (returns : ∀ renewed later, post renewed later) :
    Runs (executionDiscipline claim kept targetId condition) me
      (renewLease settings claim) post fail store := by
  refine runs_bind (runs_observe execution_stutters trivial ?_)
  intro start afterStart _
  refine runs_bind (runs_observe execution_stutters trivial ?_)
  intro update afterUpdate _
  refine runs_transaction execution_stutters trivial
    (fun exc later _ => raises exc later) ?_
  intro choice value next _ result
  cases result
  refine ⟨trivial, guar_of_follows
    (follows_renew (start.now + settings.jobLeaseSeconds) update.now), ?_⟩
  intro later _
  exact ⟨returns _ later, fun exc => raises exc later⟩

/-- Any heartbeat thread of the claim, whichever execution it belongs to. -/
theorem runs_heartbeatLoop (settings : Settings) (execution : Nat) :
    Runs (executionDiscipline claim kept targetId condition) me
      (heartbeatLoop settings claim execution) (fun _ _ => True)
      (fun _ _ => True) store := by
  refine runs_bind (runs_observe execution_stutters trivial ?_)
  intro stopping afterStop _
  split
  · exact runs_pure _ trivial
  refine runs_bind (runs_tryCatch (runs_bind (runs_beat_reconcile ?_ ?_)))
  · intro exc later
    split
    · exact runs_pure _ (runs_startThread fun _ _ => trivial)
    · exact runs_throw _ trivial
  · intro report later reported
    cases report with
    | none =>
        refine runs_beat_renew ?_ ?_
        · intro exc last
          split
          · exact runs_pure _ (runs_startThread fun _ _ => trivial)
          · exact runs_throw _ trivial
        · intro renewed last
          cases renewed with
          | true => exact runs_startThread fun _ _ => trivial
          | false => exact runs_pure _ trivial
    | some report =>
        refine runs_bind (runs_internal fun choice _ => ?_)
        refine ⟨trivial, guar_of_follows
          (follows_flag execution _ (reported rfl)), ?_⟩
        intro last _
        exact runs_pure _ (runs_pure _ trivial)

end Discipline

end SystemUni.Workers.Heartbeats
