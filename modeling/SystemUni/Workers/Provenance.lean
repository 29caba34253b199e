import SystemUni.Application
import SystemUni.Services.Gpa
import SystemUni.Workers.Guarantees

/-!
# Where reports come from

A worker reads the student and then the enrollments of a job, each in a
statement of its own, long before it stores the report.  Whatever else runs,
what it stores is a transcript of rows that were committed while the job
existed.
-/

set_option autoImplicit false

namespace SystemUni.Workers.Provenance

open Interleaving Relational
open SystemUni.Runtime.Errors
open SystemUni.Runtime.External
open SystemUni.Runtime.Statements
open SystemUni.Runtime.Rules
open SystemUni.Models.Rows
open SystemUni.Models.Jobs
open SystemUni.Models.Schema
open SystemUni.Services.Reports
open SystemUni.Services.Gpa (computes finishes_computed)
open SystemUni.Routers.Reports
open SystemUni.Workers.Tasks
open SystemUni.Workers.Runner
open SystemUni.Workers.Frame
open SystemUni.Workers.Queue
open SystemUni.Workers.Execution
open SystemUni.Crud.User
open SystemUni.Accounts.Frame
open SystemUni.Accounts.Service
open SystemUni.Routers.Api
open SystemUni.Routers.Frame
open SystemUni.Students.Frame
open SystemUni.Application

/-! ## Genuine reports -/

/-- A transcript of a student row and of enrollments, each from tables that
have been seen. -/
def Genuine (seen : Tables → Prop) (studentId : Id) (result : Transcript) :
    Prop :=
  ∃ reading listing student, seen reading ∧ seen listing ∧
    reading.students.find? studentId = some student ∧
    result = transcriptOf student (enrollmentsOf studentId listing)

/-- Of every job, its own tables have been seen. -/
def AllGenuine (seen : String → Tables → Prop) (queue : Queue) : Prop :=
  ∀ report ∈ queue.reports.rows, ∃ job ∈ queue.jobs.rows,
    job.jobId = report.jobId ∧
      Genuine (seen job.jobId) job.targetId report.result

theorem AllGenuine.evolves {seen : String → Tables → Prop}
    {before after : Queue} (genuine : AllGenuine seen before)
    (evolves : Evolves before after) (same : after.reports = before.reports) :
    AllGenuine seen after := by
  intro report member
  rw [same] at member
  obtain ⟨job, jobMember, isJob, result⟩ := genuine report member
  obtain ⟨next, nextMember, becomes⟩ := evolves.jobs job jobMember
  refine ⟨next, nextMember, becomes.jobId.trans isJob, ?_⟩
  rw [becomes.jobId, becomes.targetId]
  exact result

theorem hasKey_evolves {before after : Queue} (evolves : Evolves before after)
    {jobId : String} (present : before.jobs.HasKey jobId) :
    after.jobs.HasKey jobId := by
  obtain ⟨job, member, same⟩ := present
  obtain ⟨next, nextMember, becomes⟩ := evolves.jobs job member
  exact ⟨next, nextMember, becomes.jobId.trans same⟩

/-! ## The discipline -/

/-- Statements are executed while the tables are seen for all jobs there
are. -/
def watched (seen : String → Tables → Prop) : Condition university :=
  fun _ _ store => ∀ jobId, store.queue.jobs.HasKey jobId →
    seen jobId store.db.tables

structure Sound (seen : String → Tables → Prop) (store : Store) : Prop where
  wellFormed : WellFormed store.queue
  genuine : AllGenuine seen store.queue

def reportDiscipline (settings : Settings)
    (seen : String → Tables → Prop) : Discipline university :=
  { queueDiscipline settings with inv := Sound seen, ok := watched seen }

def reports (store : Store) : Table Report.jobId := store.queue.reports

theorem report_stutters (settings : Settings)
    (seen : String → Tables → Prop) :
    Stutters (reportDiscipline settings seen) :=
  fun _ label choice store _ =>
    @Effect.unchanged settings store.queue label choice

/-- Storing a report apart, what is true of the queue suffices. -/
theorem report_refines (settings : Settings)
    (seen : String → Tables → Prop) :
    (reportDiscipline settings seen).Refines (queueDiscipline settings)
      reports where
  inv _ sound := sound.wellFormed
  rely _ _ _ evolves := evolves
  ok _ _ _ _ := trivial
  step _ _ _ _ _ sound _ wellFormed effect same :=
    ⟨⟨wellFormed, sound.genuine.evolves (Effect.evolves effect) same⟩, effect⟩

/-- Most of what a worker does stores no report. -/
theorem reports_besideJobs : BesideJobs reports :=
  ⟨fun _ _ _ same => same, fun _ _ _ => rfl⟩

/-! ## Executions -/

section Executions

variable {settings : Settings} {seen : String → Tables → Prop} {me : Nat}
  {store : Store}

/-- Nothing but soundness is said of how it ends. -/
abbrev StaysSound {α : Type} (settings : Settings)
    (seen : String → Tables → Prop) (me : Nat) (program : Py α)
    (store : Store) : Prop :=
  Runs (reportDiscipline settings seen) me program (fun _ => Sound seen)
    (fun _ => Sound seen) store

/-- What stores no report stays sound, and what is known of how it ends
remains. -/
theorem runs_quiet {α : Type} {program : Py α} {post : α → Store → Prop}
    {fail : Exc → Store → Prop} (leaves : Leaves reports program)
    (sound : Sound seen store)
    (runs : Runs (queueDiscipline settings) me program post fail store) :
    Runs (reportDiscipline settings seen) me program
      (fun value later => Sound seen later ∧ post value later)
      (fun exc later => Sound seen later ∧ fail exc later) store :=
  runs_inv sound
    (safe_refine (report_refines settings seen) me program.run leaves _ store
      sound runs)

theorem stays_quiet {α : Type} {program : Py α} {post : α → Store → Prop}
    {fail : Exc → Store → Prop} (leaves : Leaves reports program)
    (sound : Sound seen store)
    (runs : Runs (queueDiscipline settings) me program post fail store) :
    StaysSound settings seen me program store :=
  runs_mono (runs_quiet leaves sound runs) (fun _ _ ends => ends.1)
    fun _ _ ends => ends.1

theorem stays_of_leaves {α : Type} {program : Py α}
    (leaves : Leaves Store.queue program) (sound : Sound seen store) :
    StaysSound settings seen me program store :=
  stays_quiet (Prog.Keeps.map Queue.reports leaves) sound
    (runs_leaves leaves sound.wellFormed (fun _ _ _ => trivial)
      fun _ _ _ => trivial)

theorem stays_completes (jobId : String) (sound : Sound seen store) :
    StaysSound settings seen me (completedResult jobId) store :=
  stays_of_leaves (leaves_completedResult jobId) sound

theorem runs_sees {α : Type} {read : Store → α} {post : α → Store → Prop}
    {fail : Exc → Store → Prop} (sound : Sound seen store)
    (raises : ∀ exc later, Later (reportDiscipline settings seen) me store
      later → fail exc later)
    (returns : ∀ later, watched seen .query {} store →
      Later (reportDiscipline settings seen) me store later →
      post (read store) later) :
    Runs (reportDiscipline settings seen) me (query read) post fail store := by
  refine runs_transaction (report_stutters settings seen) sound raises ?_
  intro choice value next watching body
  cases body
  refine ⟨sound, .unchanged .query choice, ?_⟩
  intro later follows
  exact ⟨returns later watching follows, fun exc => raises exc later follows⟩

theorem runs_generates {jobId : String} {targetId : Id}
    (sound : Sound seen store) (present : store.queue.jobs.HasKey jobId) :
    Runs (reportDiscipline settings seen) me
      (generateStudentTranscript targetId)
      (fun transcript later => Later (reportDiscipline settings seen) me store
        later ∧ ∀ result, transcript = some result →
          Genuine (seen jobId) targetId result)
      (fun _ => Sound seen) store := by
  refine runs_bind (runs_sees sound (fun _ _ follows => follows.inv) ?_)
  intro afterRead watching read
  cases found : store.db.tables.students.find? targetId with
  | none => exact runs_pure _ ⟨read, fun _ absurd => by cases absurd⟩
  | some student =>
      refine runs_bind (runs_sees read.inv (fun _ _ follows => follows.inv) ?_)
      intro afterList listing list
      refine runs_bind (runs_observe (report_stutters settings seen) list.inv
        ?_)
      intro choice later follows
      cases choice.fault with
      | some exc => exact runs_throw _ follows.inv
      | none =>
          refine runs_pure _ ⟨(read.trans list).trans follows, ?_⟩
          intro result same
          cases same
          exact ⟨store.db.tables, afterRead.db.tables, student,
            watching jobId present,
            listing jobId (hasKey_evolves read.rely present), found, rfl⟩

theorem runs_adoptsOr {α : Type} {jobId : String} {adopting rest : Py α}
    {post : α → Store → Prop} (sound : Sound seen store)
    (adopts : ∀ later, Sound seen later →
      Runs (reportDiscipline settings seen) me adopting post
        (fun _ => Sound seen) later)
    (otherwise : ∀ later, Later (reportDiscipline settings seen) me store
      later → Runs (reportDiscipline settings seen) me rest post
        (fun _ => Sound seen) later) :
    Runs (reportDiscipline settings seen) me
      (do
        let existing ← reconcileReportedJob jobId
        if existing.isSome then adopting else rest) post
      (fun _ => Sound seen) store := by
  refine runs_bind (runs_mono (runs_quiet
    (leaves_reconcileReportedJob reports_besideJobs jobId) sound
    (runs_reconcileReportedJob sound.wellFormed (fun _ _ _ => trivial)
      fun _ _ follows _ => follows.rely)) ?_ fun _ _ ends => ends.1)
  intro existing later ⟨laterSound, evolves⟩
  split
  · exact adopts later laterSound
  · exact otherwise later ⟨laterSound, evolves⟩

/-- What the `with` statement hands on is genuine. -/
def Generates (seen : String → Tables → Prop) (jobId : String) (targetId : Id)
    (began : Queue) (answer : ExecutionResult ⊕ Option Transcript)
    (later : Store) : Prop :=
  Sound seen later ∧ Evolves began later.queue ∧
    ∀ result, answer = .inr (some result) →
      Genuine (seen jobId) targetId result

theorem runs_returnsCompleted {jobId : String} {targetId : Id}
    {began : Queue} (sound : Sound seen store)
    (evolves : Evolves began store.queue) (claimId : String) :
    Runs (reportDiscipline settings seen) me
      (do
        let result ← completedResult claimId
        return (.inl result : ExecutionResult ⊕ Option Transcript))
      (Generates seen jobId targetId began) (fun _ => Sound seen) store := by
  refine runs_bind (runs_mono (runs_quiet (leaves_completedResult claimId)
    sound (runs_leaves (leaves_completedResult claimId) sound.wellFormed
      (fun _ _ _ => trivial) fun _ _ follows => follows.rely)) ?_
    fun _ _ ends => ends.1)
  intro result later ⟨laterSound, further⟩
  exact runs_pure _ ⟨laterSound, evolves.trans further,
    fun _ same => by cases same⟩

theorem runs_generatesUnderLease {claim : ClaimedJob} {reportType : String}
    {targetId : Id} {execution : Nat} (sound : Sound seen store)
    (present : store.queue.jobs.HasKey claim.jobId) :
    Runs (reportDiscipline settings seen) me
      (generateUnderLease claim reportType targetId execution)
      (Generates seen claim.jobId targetId store.queue)
      (fun _ => Sound seen) store := by
  refine runs_bind (runs_mono (runs_quiet (leaves_reconcileReportedJob
      reports_besideJobs claim.jobId)
    sound (runs_reconcileReportedJob sound.wellFormed (fun _ _ _ => trivial)
      fun _ _ follows _ => follows.rely)) ?_ fun _ _ ends => ends.1)
  intro existing later ⟨laterSound, evolves⟩
  split
  · exact runs_returnsCompleted laterSound evolves claim.jobId
  split
  · exact runs_throw _ laterSound
  refine runs_bind (runs_mono
    (runs_generates laterSound (hasKey_evolves evolves present)) ?_
    fun _ _ isSound => isSound)
  intro transcript generated ⟨generate, genuine⟩
  refine runs_bind (runs_observe (report_stutters settings seen) generate.inv
    ?_)
  intro choice flagged flag
  have whole : Evolves store.queue flagged.queue :=
    evolves.trans (generate.rely.trans flag.rely)
  split
  · refine runs_bind (runs_mono (runs_quiet (leaves_reconcileReportedJob
      reports_besideJobs claim.jobId)
      flag.inv (runs_reconcileReportedJob flag.inv.wellFormed
        (fun _ _ _ => trivial) fun _ _ follows _ => follows.rely)) ?_
      fun _ _ ends => ends.1)
    intro adopted last ⟨lastSound, further⟩
    split
    · exact runs_returnsCompleted lastSound (whole.trans further) claim.jobId
    · exact runs_throw _ lastSound
  · refine runs_pure _ ⟨flag.inv, whole, ?_⟩
    intro result same
    exact genuine result (Sum.inr.inj same)

theorem runs_sets {α : Type} {body : Nat → Choice → Store → α × Store}
    {post : α → Store → Prop} {fail : Exc → Store → Prop}
    (sound : Sound seen store)
    (event : ∀ me choice store, (body me choice store).2.queue = store.queue)
    (returns : ∀ value later,
      Later (reportDiscipline settings seen) me store later →
        post value later) :
    Runs (reportDiscipline settings seen) me (internal body) post fail
      store := by
  refine runs_internal fun choice _ => ?_
  have same := event me choice store
  have unchanged : Effect settings store.queue .internal choice
      (body me choice store).2.queue := same ▸ .unchanged .internal choice
  refine ⟨⟨unchanged.wellFormed sound.wellFormed,
    sound.genuine.evolves unchanged.evolves (congrArg Queue.reports same)⟩,
    unchanged, ?_⟩
  intro later follows
  exact returns _ later
    ⟨follows.inv, unchanged.evolves.trans follows.rely⟩

theorem runs_generatesBesideHeartbeat {claim : ClaimedJob}
    {reportType : String} {targetId : Id} (sound : Sound seen store)
    (present : store.queue.jobs.HasKey claim.jobId) :
    Runs (reportDiscipline settings seen) me
      (jobHeartbeat claim (generateUnderLease claim reportType targetId))
      (Generates seen claim.jobId targetId store.queue) (fun _ => Sound seen)
      store := by
  refine runs_bind (runs_sets sound (fun _ _ _ => rfl) ?_)
  intro execution entered enter
  refine runs_bind (runs_startThread ?_)
  intro started start
  have here := enter.trans start
  refine runs_withFinally (runs_mono (runs_generatesUnderLease start.inv
    (hasKey_evolves here.rely present)) ?_ ?_)
  · intro answer later ⟨laterSound, evolves, genuine⟩
    refine runs_sets laterSound (fun _ _ _ => rfl) ?_
    intro _ last follows
    exact ⟨follows.inv, (here.rely.trans evolves).trans follows.rely, genuine⟩
  · intro exc later laterSound
    exact runs_sets laterSound (fun _ _ _ => rfl)
      fun _ last follows => follows.inv

theorem stored_genuine {queue after : Queue} {jobId : String}
    {result : Transcript} {now : Time} {job : Job}
    (genuine : AllGenuine seen queue)
    (inserted : persistReport ⟨jobId, result⟩ now queue = .ok after)
    (present : ∃ next ∈ queue.jobs.rows, JobEvolves job next)
    (isJob : job.jobId = jobId)
    (shows : Genuine (seen jobId) job.targetId result) :
    AllGenuine seen after := by
  have evolves : Evolves queue after := .persistReport inserted
  obtain ⟨fresh, _, isAfter⟩ := persistReport_ok inserted
  intro report member
  have here : report ∈ (queue.reports.insert ⟨jobId, result⟩ fresh).rows := by
    rw [isAfter] at member
    exact member
  rcases (Table.mem_insert fresh).mp here with old | new
  · obtain ⟨reported, reportedMember, same, itsOwn⟩ := genuine report old
    obtain ⟨next, nextMember, becomes⟩ := evolves.jobs reported reportedMember
    refine ⟨next, nextMember, becomes.jobId.trans same, ?_⟩
    rw [becomes.jobId, becomes.targetId]
    exact itsOwn
  · obtain ⟨middle, middleMember, toMiddle⟩ := present
    obtain ⟨last, lastMember, toLast⟩ := evolves.jobs middle middleMember
    have becomes := toMiddle.trans toLast
    have same : last.jobId = jobId := becomes.jobId.trans isJob
    rw [new]
    refine ⟨last, lastMember, same, ?_⟩
    rw [same, becomes.targetId]
    exact shows

theorem stays_adopts (jobId : String) (sound : Sound seen store) (exc : Exc) :
    StaysSound settings seen me
      (if exc.isIntegrityError then do
        let winner ← reconcileReportedJob jobId
        match winner with
        | none => throw exc
        | some winner => return winner
      else throw exc) store :=
  stays_quiet (leaves_adoptReport reports_besideJobs jobId exc) sound
    (runs_adoptReport sound.wellFormed (fun _ _ _ => trivial)
      (fun _ _ _ _ => trivial) exc)

theorem stays_persists {jobId : String} {result : Transcript}
    (sound : Sound seen store) {job : Job} (member : job ∈ store.queue.jobs.rows)
    (isJob : job.jobId = jobId)
    (genuine : Genuine (seen jobId) job.targetId result) :
    StaysSound settings seen me (persistOrAdoptReport jobId result) store := by
  refine runs_tryCatch (runs_bind (runs_observe (report_stutters settings seen)
    sound ?_))
  intro clock afterClock reading
  refine runs_bind (runs_transaction (report_stutters settings seen)
    reading.inv ?_ ?_)
  · exact fun exc later follows => stays_adopts jobId follows.inv exc
  · intro choice value next _ body
    obtain ⟨queue, inserted, becomes⟩ := mapped_ok body
    cases becomes
    have effect : Effect settings afterClock.queue
        (.queue (.persistReport jobId)) choice queue :=
      .persisted choice ⟨jobId, result⟩ clock.now queue inserted
    refine ⟨⟨effect.wellFormed reading.inv.wellFormed, ?_⟩, effect, ?_⟩
    · exact stored_genuine reading.inv.genuine inserted
        (reading.rely.jobs job member) isJob genuine
    · intro later follows
      exact ⟨runs_pure _ follows.inv, stays_adopts jobId follows.inv⟩

theorem stays_executes (claim : ClaimedJob) (sound : Sound seen store) :
    StaysSound settings seen me (executeClaim claim) store := by
  refine runs_bind (runs_query (report_stutters settings seen) sound
    (fun _ _ follows => follows.inv) ?_)
  intro afterRead read
  cases found : store.queue.jobs.find? claim.jobId with
  | none => exact runs_pure _ read.inv
  | some job =>
      obtain ⟨member, isJob⟩ := Table.find?_eq_some_iff.mp found
      refine runs_adoptsOr read.inv
        (fun later laterSound => stays_completes claim.jobId laterSound) ?_
      intro reconciled reconcile
      split
      · exact runs_pure _ reconcile.inv
      split
      · exact runs_pure _ reconcile.inv
      have present : reconciled.queue.jobs.HasKey claim.jobId :=
        hasKey_evolves (read.trans reconcile).rely ⟨job, member, isJob⟩
      refine runs_bind (runs_mono
        (runs_generatesBesideHeartbeat reconcile.inv present) ?_
        fun _ _ isSound => isSound)
      intro answer generated ⟨generatedSound, evolves, genuine⟩
      cases answer with
      | inl result => exact runs_pure _ generatedSound
      | inr transcript =>
          refine runs_adoptsOr generatedSound
            (fun later laterSound => stays_completes claim.jobId laterSound) ?_
          intro unreported follows
          cases transcript with
          | none => exact runs_throw _ follows.inv
          | some transcript =>
              have whole : Evolves store.queue unreported.queue :=
                (read.trans reconcile).rely.trans
                  (evolves.trans follows.rely)
              obtain ⟨next, nextMember, becomes⟩ := whole.jobs job member
              refine runs_bind (runs_mono (stays_persists follows.inv
                nextMember (becomes.jobId.trans isJob) ?_) ?_
                fun _ _ isSound => isSound)
              · rw [becomes.targetId]
                exact genuine transcript rfl
              · intro report later laterSound
                exact stays_completes report.jobId laterSound

theorem stays_processes (claim : ClaimedJob) (sound : Sound seen store) :
    StaysSound settings seen me (processClaimedReport settings claim) store :=
  runs_tryCatch (runs_mono (stays_executes claim sound)
    (fun _ _ isSound => isSound)
    fun exc _ isSound => stays_quiet
      (leaves_handleError reports_besideJobs settings claim exc) isSound
      (runs_handleError isSound.wellFormed))

theorem stays_runsOnce (sound : Sound seen store) :
    StaysSound settings seen me (runOnce settings) store := by
  refine runs_bind (runs_mono (stays_quiet (leaves_claimWithRetry
    reports_besideJobs settings _) sound
    (runs_claimWithRetry sound.wellFormed)) ?_ fun _ _ isSound => isSound)
  intro claimed later laterSound
  cases claimed with
  | none => exact runs_pure _ laterSound
  | some claim =>
      exact runs_bind (runs_mono (stays_processes claim laterSound)
        (fun _ _ isSound => runs_pure _ isSound) fun _ _ isSound => isSound)

/-! ## All processes -/

theorem stays_silent {α : Type} {program : Py α}
    (stays : StaysSound settings seen me program store) :
    StaysSound settings seen me (silent program) store :=
  runs_bind (runs_mono stays (fun _ _ isSound => runs_pure _ isSound)
    fun _ _ isSound => isSound)

variable {libraries : Libraries}

theorem stays_enqueues (studentId : Id) (user : User)
    (sound : Sound seen store) :
    StaysSound settings seen me (exportTranscriptAsync studentId user)
      store :=
  stays_quiet
    (leaves_exportTranscriptAsync (fun _ _ same => same) studentId user) sound
    (runs_exportTranscriptAsync sound.wellFormed)

theorem stays_serves (credentials : Option String) (route : Route)
    (sound : Sound seen store) :
    StaysSound settings seen me (route.serve libraries settings credentials)
      store := by
  have rolls (later : Store) (isSound : Sound seen later) :
      StaysSound settings seen me rollback later :=
    stays_of_leaves (leaves_rollback queue_besideDatabase.toBesideLocks)
      isSound
  have program : StaysSound settings seen me
      (route.program libraries settings credentials) store := by
    by_cases other : ∀ studentId, route ≠ .exportTranscriptAsync studentId
    · exact stays_of_leaves
        (leaves_program queue_besideDatabase credentials route other) sound
    · obtain ⟨studentId, rfl⟩ := not_forall_not.mp other
      refine runs_bind (runs_mono (stays_of_leaves
        (leaves_requireRoles [.admin, .user] credentials) sound) ?_
        fun _ _ isSound => isSound)
      exact fun user later isSound =>
        stays_silent (stays_enqueues studentId user isSound)
  have session := runs_session (fun _ => True) rolls
    (runs_mono program (fun _ _ isSound => ⟨isSound, trivial⟩)
      fun _ _ isSound => isSound)
  exact runs_mono session (fun _ _ ends => ends.1) fun _ _ isSound => isSound

theorem stays_process {program : Prog university (Except Exc Unit)}
    (process : Process libraries settings program)
    (sound : Sound seen store) :
    StaysSound settings seen me program store := by
  cases process with
  | request credentials route => exact stays_serves credentials route sound
  | reconcileOnce =>
      exact stays_silent (stays_quiet (leaves_reconcileOnce
        reports_besideJobs) sound
        (runs_reconcileOnce sound.wellFormed))
  | runOnce => exact stays_silent (stays_runsOnce sound)
  | createAdmin environment arguments =>
      exact stays_silent (stays_of_leaves
        (leaves_createAdmin (fun _ _ => rfl)
          queue_besideDatabase.toBesideLocks environment arguments) sound)

theorem application_stays_sound (libraries : Libraries) (settings : Settings)
    (seen : String → Tables → Prop) :
    Obeys (application libraries settings) (reportDiscipline settings seen)
      fun _ => Sound seen where
  starts me store program sound process later isSound _ := by
    refine safe_mono _ me program later (stays_process process isSound) ?_
    intro result last ends
    cases result with
    | ok done => exact ends
    | error exc => exact ends
  children me child store sound later isSound _ := by
    cases child with
    | heartbeat claim execution =>
        refine safe_mono _ me _ later (stays_quiet
          (leaves_heartbeatLoop reports_besideJobs settings claim execution) isSound
          (runs_heartbeatLoop isSound.wellFormed)) ?_
        intro result last ends
        cases result with
        | ok done => exact ends
        | error exc => exact ends

end Executions

/-! ## Runs -/

theorem run_sound {libraries : Libraries} {settings : Settings}
    {seen : String → Tables → Prop} {initial : Store}
    (empty : initial.queue = {}) {config : Config university (Except Exc Unit)}
    (reachable : Reachable (application libraries settings) (watched seen)
      initial config) :
    Sound seen config.store := by
  have sound : Sound seen initial := by
    refine ⟨empty ▸ wellFormed_empty, ?_⟩
    intro report member
    rw [empty] at member
    cases member
  exact ((application_stays_sound libraries settings seen).sound sound
    reachable).inv

/-- Along a run in which the tables are always among those seen for a job, as
long as the job exists, every stored report is the transcript of its job's
student and enrollments as they are in tables seen for the job. -/
theorem reports_genuine (libraries : Libraries) (settings : Settings)
    (seen : String → Tables → Prop) (initial : Store)
    (empty : initial.queue = {})
    (config : Config university (Except Exc Unit))
    (reachable : Reachable (application libraries settings) (watched seen)
      initial config) :
    ∀ report ∈ config.store.queue.reports.rows,
      ∃ job ∈ config.store.queue.jobs.rows, job.jobId = report.jobId ∧
        Genuine (seen job.jobId) job.targetId report.result :=
  (run_sound empty reachable).genuine

/-- A student exports the own transcript, and a worker executes the job. -/
def exporting : Config university (Except Exc Unit) where
  store := linkedStore
  threads := [served (some "first") (.exportTranscriptAsync 1),
    (silent (runOnce .default)).run]

def exportTurns : List (Turn university) :=
  plain (List.replicate 6 0 ++ List.replicate 17 1)

def onlyLinked (_ : String) (tables : Tables) : Prop :=
  tables.students.rows = [linkedSample] ∧ tables.enrollments.rows = []

instance (jobId : String) (tables : Tables) :
    Decidable (onlyLinked jobId tables) := inferInstanceAs (Decidable (_ ∧ _))

def watchesLinked (_ : Label) (_ : Choice) (store : Store) : Bool :=
  decide (onlyLinked "" store.db.tables)

def exported : Config university (Except Exc Unit) :=
  exporting.played sampleApplication watchesLinked exportTurns

theorem exporting_reachable (condition : Condition university) :
    Reachable sampleApplication condition linkedStore exporting := by
  refine started_reachable _ linkedStore exporting.threads ?_
  intro program member
  simp only [exporting, List.mem_cons, List.not_mem_nil, or_false] at member
  rcases member with rfl | rfl
  · exact .request (some "first") (.exportTranscriptAsync 1)
  · exact .runOnce

theorem exported_reachable :
    Reachable sampleApplication (watched onlyLinked) linkedStore exported :=
  (exporting_reachable _).trans
    (exporting.played_run sampleApplication watchesLinked (watched onlyLinked)
      (fun _ _ _ seen _ _ => of_decide_eq_true seen) exportTurns (by cbv))

def exportedReport : Report := ⟨"", transcriptOf linkedSample []⟩

theorem exported_reports :
    exported.store.queue.reports.rows = [exportedReport] := by cbv

theorem reports_genuine_exported :
    ∃ job ∈ exported.store.queue.jobs.rows,
      job.jobId = exportedReport.jobId ∧
      Genuine (onlyLinked job.jobId) job.targetId exportedReport.result :=
  reports_genuine sampleLibraries .default onlyLinked linkedStore rfl exported
    exported_reachable exportedReport
    (exported_reports ▸ List.mem_singleton_self exportedReport)

/-! ## The two ways to a transcript -/

section Agreement

variable {me : Nat} {store : Store} {student : Student} {user : User}

theorem finishes_getTranscript {studentId : Id}
    (fits : fitsInteger studentId = true)
    (found : store.db.tables.students.find? studentId = some student)
    (may : mayExport user student = true) :
    Finishes computes me (getTranscript studentId user)
      (fun transcript later => later = store ∧ transcript =
        transcriptOf student (enrollmentsOf studentId store.db.tables))
      (fun _ _ => False) store := by
  refine finishes_bind (finishes_select (fun _ => ?_) fun misfit => ?_)
  · rw [found]
    simp only [may, Bool.not_true, Bool.false_eq_true, if_false]
    refine finishes_bind (finishes_mono finishes_computed ?_
      fun _ _ raised => raised)
    rintro answer later ⟨rfl, rfl⟩
    rw [found]
    exact finishes_pure _ ⟨rfl, rfl⟩
  · rw [fits] at misfit
    cases misfit

theorem finishes_getJobStatus {jobId : String} {job : Job} {report : Report}
    (found : store.queue.jobs.find? jobId = some job)
    (reported : store.queue.reports.find? jobId = some report)
    (may : user.role = .admin ∨ user.id = job.ownerId) :
    Finishes computes me (getJobStatus jobId user)
      (fun data later => later = store ∧ data.status = .completed ∧
        data.result = some report.result) (fun _ _ => False) store := by
  refine finishes_bind (finishes_query ?_)
  rw [found]
  have admitted : ¬ (user.role ≠ .admin ∧ user.id ≠ job.ownerId) := by
    rintro ⟨notAdmin, notOwner⟩
    exact may.elim notAdmin notOwner
  simp only [if_neg admitted]
  refine finishes_bind (finishes_query ?_)
  rw [reported]
  exact finishes_pure _ ⟨rfl, rfl, rfl⟩

end Agreement

/-- This student row and these enrollments. -/
def Records (studentId : Id) (student : Student) (rows : List Enrollment)
    (tables : Tables) : Prop :=
  tables.students.find? studentId = some student ∧
    enrollmentsOf studentId tables = rows

/-- As long as the student and the enrollments do not change while the job
exists, the job shows the transcript that is generated on the spot. -/
theorem export_agrees (libraries : Libraries) (settings : Settings)
    (student : Student) (rows : List Enrollment) (jobId : String)
    (studentId : Id) (initial : Store) (empty : initial.queue = {})
    (config : Config university (Except Exc Unit))
    (reachable : Reachable (application libraries settings)
      (watched fun other tables => other = jobId →
        Records studentId student rows tables) initial config)
    (steady : Records studentId student rows config.store.db.tables)
    (job : Job) (report : Report)
    (foundJob : config.store.queue.jobs.find? jobId = some job)
    (targets : job.targetId = studentId)
    (foundReport : config.store.queue.reports.find? jobId = some report)
    (fits : fitsInteger studentId = true) (me : Nat) (user : User)
    (may : user.role = .admin ∨
      user.id = job.ownerId ∧ student.userId = some user.id) :
    Finishes computes me (getTranscript studentId user)
        (fun transcript later => later = config.store ∧
          transcript = report.result) (fun _ _ => False) config.store ∧
      Finishes computes me (getJobStatus jobId user)
        (fun data later => later = config.store ∧ data.status = .completed ∧
          data.result = some report.result) (fun _ _ => False)
        config.store := by
  obtain ⟨stored, isReport⟩ := Table.find?_eq_some_iff.mp foundReport
  obtain ⟨other, otherMember, sameId, reading, listing, read, seenReading,
    seenListing, wasFound, shows⟩ :=
      (run_sound empty reachable).genuine report stored
  obtain ⟨member, isJob⟩ := Table.find?_eq_some_iff.mp foundJob
  have otherId : other.jobId = jobId := sameId.trans isReport
  have same : other = job := config.store.queue.jobs.eq_of_key_eq otherMember
    member (otherId.trans isJob.symm)
  subst same
  have current : report.result = transcriptOf student
      (enrollmentsOf studentId config.store.db.tables) := by
    obtain ⟨sameStudent, _⟩ := seenReading otherId
    obtain ⟨_, sameEnrollments⟩ := seenListing otherId
    rw [targets, sameStudent] at wasFound
    cases Option.some.inj wasFound
    rw [shows, targets, sameEnrollments, steady.2]
  refine ⟨?_, finishes_getJobStatus foundJob foundReport
    (may.imp_right And.left)⟩
  rw [current]
  refine finishes_getTranscript fits steady.1 ?_
  rcases may with admin | ⟨_, linked⟩
  · simp [mayExport, admin]
  · simp [mayExport, linked]

theorem export_agrees_exported :
    Finishes computes 0 (getTranscript 1 sampleUser)
        (fun transcript later => later = exported.store ∧
          transcript = exportedReport.result) (fun _ _ => False)
        exported.store ∧
      Finishes computes 0 (getJobStatus "" sampleUser)
        (fun data later => later = exported.store ∧
          data.status = .completed ∧
          data.result = some exportedReport.result) (fun _ _ => False)
        exported.store := by
  have watching : Reachable sampleApplication
      (watched fun other tables => other = "" →
        Records 1 linkedSample [] tables) linkedStore exported := by
    refine exported_reachable.weaken ?_
    rintro label choice store seen jobId present rfl
    obtain ⟨students, none⟩ := seen "" present
    refine ⟨?_, ?_⟩
    · simp [Table.find?, students, linkedSample, sampleStudent]
    · simp [enrollmentsOf, none]
  exact export_agrees sampleLibraries .default linkedSample [] "" 1
    linkedStore rfl exported watching ⟨by cbv, by cbv⟩
    { newJob "" 2 1 0 with
      status := .completed, jobVersion := 1, attemptCount := 1 }
    exportedReport (by cbv) rfl (by cbv) (by decide) 0 sampleUser
    (.inr ⟨rfl, rfl⟩)

end SystemUni.Workers.Provenance
