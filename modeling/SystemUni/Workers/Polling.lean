import SystemUni.Workers.Service

/-!
# Polling a job

Polls beside everything the report service does.  A poll reads the job and then
the report, so a report it has seen was persisted before, and no statement
removes it again.
-/

set_option autoImplicit false

namespace SystemUni.Workers.Polling

open Interleaving Relational
open SystemUni.Runtime.Errors
open SystemUni.Runtime.Statements
open SystemUni.Runtime.Rules
open SystemUni.Models.Rows
open SystemUni.Models.Jobs
open SystemUni.Models.Schema
open SystemUni.Services.Reports
open SystemUni.Routers.Reports
open SystemUni.Workers.Tasks
open SystemUni.Workers.Runner
open SystemUni.Workers.Queue
open SystemUni.Workers.Execution
open SystemUni.Workers.Service

/-- A finished poll with its caller and its response. -/
inductive Poll where
  | done
  | answered (jobId : String) (user : User) (response : PollResponse)
  deriving DecidableEq

def beside {α : Type} (program : Py α) : Py Poll := do
  let _ ← program
  return .done

def pollJob (jobId : String) (user : User) : Py Poll :=
  tryCatch
    (do
      let data ← getJobStatus jobId user
      return .answered jobId user (.shown data))
    fun exc => return .answered jobId user (.refused exc)

inductive PollRequest (settings : Settings) (store : Store) :
    Py Poll → Prop where
  | poll (jobId : String) (user : User) :
      PollRequest settings store (pollJob jobId user)
  | queue (program : Py Answer)
      (request : QueueRequest settings store program) :
      PollRequest settings store (beside program)

def pollSystem (settings : Settings) : System university (Except Exc Poll) where
  start := PollRequest settings
  code child := beside (childCode settings child)

/-! ## One poll -/

/-- What every response tells. -/
def pollOk (answer : Poll) (store : Store) : Prop :=
  match answer with
  | .answered jobId user (.shown data) =>
      data.jobId = jobId ∧ Shown user data store.queue ∧
        Consistent data store.queue
  | _ => True

/-- The job of this owner has been reported. -/
structure Reported (jobId : String) (ownerId : Id) (transcript : Transcript)
    (queue : Queue) : Prop where
  report : queue.reports.find? jobId = some ⟨jobId, transcript⟩
  job : ∃ job, queue.jobs.find? jobId = some job ∧ job.ownerId = ownerId

theorem Reported.evolves {jobId : String} {ownerId : Id}
    {transcript : Transcript} {queue later : Queue}
    (reported : Reported jobId ownerId transcript queue)
    (evolves : Evolves queue later) :
    Reported jobId ownerId transcript later := by
  obtain ⟨job, found, owner⟩ := reported.job
  obtain ⟨next, member, same⟩ := evolves.jobs job (Table.mem_of_find? found)
  have key : next.jobId = jobId := same.jobId.trans (Table.key_of_find? found)
  refine ⟨evolves.report reported.report, next, ?_, same.ownerId.trans owner⟩
  rw [← key]
  exact Table.find?_of_mem member

/-- A call that was allowed to see the reported job got its result, unless the
database failed. -/
def Answers (jobId : String) (ownerId : Id) (transcript : Transcript)
    (answer : Poll) : Prop :=
  ∀ (user : User) (response : PollResponse),
    answer = .answered jobId user response →
    user.role = .admin ∨ user.id = ownerId →
      (∃ exc, response = .refused exc ∧ exc.isSqlAlchemyError = true) ∨
        ∃ data, response = .shown data ∧ data.status = .completed ∧
          data.result = some transcript

section Specifications

variable {settings : Settings} {me : Nat} {store : Store}

theorem runs_pollJob {jobId : String} {user : User}
    (wellFormed : WellFormed store.queue) :
    Runs (queueDiscipline settings) me (pollJob jobId user)
      (fun answer later => ∃ response, answer = .answered jobId user response ∧
        pollOk answer later ∧ ∀ ownerId transcript,
          Reported jobId ownerId transcript store.queue →
            Answers jobId ownerId transcript answer)
      (fun _ _ => True) store := by
  refine runs_tryCatch (runs_bind (runs_mono (runs_getJobStatus wellFormed)
    ?_ ?_))
  · rintro data later ⟨shown, consistent, named, sees⟩
    refine runs_pure _ ⟨.shown data, rfl, ⟨named, shown, consistent⟩, ?_⟩
    rintro ownerId transcript reported caller response same allowed
    cases same
    have seen := sees _ reported.report
    exact .inr ⟨data, rfl, seen⟩
  · intro exc later refused
    refine runs_pure _ ⟨.refused exc, rfl, trivial, ?_⟩
    rintro ownerId transcript reported caller response same allowed
    cases same
    rcases refused with ⟨_, invisible⟩ | failed
    · obtain ⟨job, found, owner⟩ := reported.job
      rw [← owner] at allowed
      exact absurd ⟨job, found, allowed⟩ invisible
    · exact .inl ⟨exc, rfl, failed⟩

theorem runs_beside {α : Type} {program : Py α} {post : α → Store → Prop}
    {fail : Exc → Store → Prop} {told : Poll → Store → Prop}
    (runs : Runs (queueDiscipline settings) me program post fail store)
    (done : ∀ later, told .done later) :
    Runs (queueDiscipline settings) me (beside program) told
      (fun _ _ => True) store :=
  runs_bind (runs_mono runs (fun _ later _ => runs_pure _ (done later))
    fun _ _ _ => trivial)

theorem runs_pollRequest {arrived : Store} {program : Py Poll}
    (request : PollRequest settings arrived program)
    (wellFormed : WellFormed store.queue) {told : Poll → Store → Prop}
    (done : ∀ later, told .done later)
    (polled : ∀ jobId user answer later,
      (∃ response, answer = .answered jobId user response) →
      pollOk answer later →
      (∀ ownerId transcript, Reported jobId ownerId transcript store.queue →
        Answers jobId ownerId transcript answer) → told answer later) :
    Runs (queueDiscipline settings) me program told (fun _ _ => True)
      store := by
  cases request with
  | poll jobId user =>
      refine runs_mono (runs_pollJob wellFormed) ?_ fun _ _ _ => trivial
      rintro answer later ⟨response, same, ok, answers⟩
      exact polled jobId user answer later ⟨response, same⟩ ok answers
  | queue program request =>
      exact runs_beside (runs_request request wellFormed) done

theorem runs_child {child : Child} (wellFormed : WellFormed store.queue)
    {told : Poll → Store → Prop} (done : ∀ later, told .done later) :
    Runs (queueDiscipline settings) me (beside (childCode settings child)) told
      (fun _ _ => True) store := by
  cases child with
  | heartbeat claim execution =>
      exact runs_beside (runs_settle (runs_heartbeatLoop wellFormed)) done

end Specifications

/-! ## Every run -/

abbrev pollsOk : Except Exc Poll → Store → Prop :=
  @outcome university Exc Poll pollOk fun _ _ => True

theorem poll_obeys (settings : Settings) :
    Obeys (pollSystem settings) (queueDiscipline settings) pollsOk where
  starts _ _ _ _ request := fun _ wellFormed _ =>
    runs_pollRequest request wellFormed (fun _ => trivial)
      fun _ _ _ _ _ ok _ => ok
  children _ _ _ _ := fun _ wellFormed _ =>
    runs_child wellFormed fun _ => trivial

abbrev pollsAnswer (jobId : String) (ownerId : Id) (transcript : Transcript) :
    Except Exc Poll → Store → Prop :=
  @outcome university Exc Poll
    (fun answer _ => Answers jobId ownerId transcript answer) fun _ _ => True

theorem late_polls_answer (settings : Settings) {jobId : String} {ownerId : Id}
    {transcript : Transcript} {first last : Config university (Except Exc Poll)}
    (disciplined : Disciplined (queueDiscipline settings) pollsOk first)
    (run : Run (pollSystem settings) anything first last)
    (reported : Reported jobId ownerId transcript first.store.queue)
    (thread : Nat) (arrived : first.threads.length ≤ thread) {answer : Poll}
    (finished : last.threads[thread]? = some (.ret (.ok answer))) :
    Answers jobId ownerId transcript answer := by
  have later := (poll_obeys settings).run disciplined run
  have newcomers := (poll_obeys settings).newcomers
    (pollsAnswer jobId ownerId transcript)
    (fun store => Reported jobId ownerId transcript store.queue)
    (fun _ _ _ _ _ _ effect here => here.evolves effect.evolves) ?_ ?_
    disciplined run reported
  · exact (newcomers.2.2 thread _ arrived finished).now later.inv
  · intro me store program _ here request arrival wellFormed rely
    refine runs_pollRequest request wellFormed (fun _ _ _ absurd => ?_) ?_
    · cases absurd
    · rintro otherId user polled final ⟨response, same⟩ _ answers caller
        answered sameAnswer allowed
      have sameJob : otherId = jobId := by
        rw [same] at sameAnswer
        cases sameAnswer
        rfl
      subst sameJob
      exact answers ownerId transcript (here.evolves rely) caller answered
        sameAnswer allowed
  · intro me child store _ _ arrival wellFormed _
    refine runs_child wellFormed fun _ _ _ absurd => ?_
    cases absurd

/-- Every response is `completed` exactly with the persisted report, and once
one call has been answered a result, every call that starts later and may see
the job is answered the same, unless the database fails. -/
theorem polls_consistent (settings : Settings) (initial : Store)
    (empty : initial.queue = {}) (config : Config university (Except Exc Poll))
    (reachable : Reachable (pollSystem settings) anything initial config)
    (jobId : String) (user : User) (data : JobData)
    (finished : Prog.ret (.ok (.answered jobId user (.shown data))) ∈
      config.threads) :
    (data.status = .completed ∧ (∃ report,
        config.store.queue.reports.find? jobId = some report ∧
          data.result = some report.result) ∨
      data.status ≠ .completed ∧ data.result = none) ∧
    ∀ transcript, data.result = some transcript →
      ∀ last, Run (pollSystem settings) anything config last →
      ∀ thread, config.threads.length ≤ thread →
      ∀ (caller : User) (response : PollResponse),
        last.threads[thread]? =
          some (.ret (.ok (.answered jobId caller response))) →
        caller.role = .admin ∨ caller.id = data.ownerId →
          (∃ exc, response = .refused exc ∧ exc.isSqlAlchemyError = true) ∨
            ∃ later, response = .shown later ∧ later.status = .completed ∧
              later.result = some transcript := by
  have wellFormed : WellFormed initial.queue := by
    rw [empty]
    exact wellFormed_empty
  have disciplined := (poll_obeys settings).sound wellFormed reachable
  obtain ⟨rfl, shown, consistent⟩ : data.jobId = jobId ∧
      Shown user data config.store.queue ∧
        Consistent data config.store.queue :=
    disciplined.finished finished
  refine ⟨?_, ?_⟩
  · cases given : data.result with
    | none =>
        refine .inr ⟨?_, rfl⟩
        rw [Ne, consistent.completed, given]
        simp
    | some transcript =>
        refine .inl ⟨consistent.completed.mpr (by simp [given]), _,
          consistent.persisted transcript given, rfl⟩
  · intro transcript given last run thread arrived caller response found
      allowed
    obtain ⟨job, member, sameJob, sameOwner, _⟩ := shown.job
    have reported : Reported data.jobId data.ownerId transcript
        config.store.queue := by
      refine ⟨consistent.persisted transcript given, job, ?_, sameOwner⟩
      rw [← sameJob]
      exact Table.find?_of_mem member
    exact late_polls_answer settings disciplined run reported thread arrived
      found caller response rfl allowed

/-! ## Two polls of one job -/

def completedData : JobData :=
  ⟨"", .completed, 1, "transcript", 1, some sampleTranscript⟩

def exportExecuteAndPoll : Config university (Except Exc Poll) where
  store := sampleStore
  threads := [beside (settle (exportTranscriptAsync 1 sampleAdmin)),
    beside (workerTurn .default), pollJob "" sampleAdmin]

theorem exportExecuteAndPoll_reachable :
    Reachable (pollSystem .default) anything sampleStore
      exportExecuteAndPoll := by
  refine arrivals_run _ _ _ exportExecuteAndPoll.threads ?_
  intro program member
  simp only [exportExecuteAndPoll, List.mem_cons, List.not_mem_nil,
    or_false] at member
  rcases member with rfl | rfl | rfl
  · exact .queue _ (.exportTranscriptAsync 1 sampleAdmin)
  · exact .queue _ .runOnce
  · exact .poll "" sampleAdmin

/-- The poll reads the job before the report is persisted and the report
after. -/
def polledTurns : List (Turn university) :=
  plain ([0, 0, 0] ++ List.replicate 14 1 ++ [2] ++ List.replicate 3 1 ++ [2])

def polled : Config university (Except Exc Poll) :=
  exportExecuteAndPoll.played (pollSystem .default) accept polledTurns

theorem polled_reachable :
    Reachable (pollSystem .default) anything sampleStore polled :=
  exportExecuteAndPoll_reachable.trans
    (Config.played_run _ accept anything (fun _ _ _ _ => trivial) polledTurns
      exportExecuteAndPoll (by decide +kernel))

/-- Another poll arrives and is answered. -/
def arrivedAgain : Config university (Except Exc Poll) :=
  { polled with threads := polled.threads ++ [(pollJob "" sampleAdmin).run] }

def polledAgain : Config university (Except Exc Poll) :=
  arrivedAgain.played (pollSystem .default) accept (plain [4, 4])

theorem polledAgain_run :
    Run (pollSystem .default) anything polled polledAgain :=
  Run.trans (.step (.refl polled)
      (.arrive polled _ (.poll "" sampleAdmin)) trivial)
    (Config.played_run (pollSystem .default) accept anything
      (fun _ _ _ _ => trivial) (plain [4, 4]) arrivedAgain
      (by decide +kernel))

theorem polls_consistent_again :
    polled.store.queue.reports.find? "" = some ⟨"", sampleTranscript⟩ ∧
      ∃ later, polledAgain.threads[4]? =
          some (.ret (.ok (.answered "" sampleAdmin (.shown later)))) ∧
        later.status = .completed ∧ later.result = some sampleTranscript := by
  have consistent := polls_consistent .default sampleStore rfl polled
    polled_reachable "" sampleAdmin completedData
    (finished_mem 2 (by decide +kernel))
  have second : polledAgain.threads[4]? =
      some (.ret (.ok (.answered "" sampleAdmin (.shown completedData)))) := by
    obtain ⟨program, found, answers⟩ := Option.bind_eq_some_iff.mp
      (show polledAgain.threads[4]?.bind answerOf =
        some (.answered "" sampleAdmin (.shown completedData)) by
          decide +kernel)
    rw [found, answerOf_some answers]
  refine ⟨?_, ?_⟩
  · rcases consistent.1 with ⟨_, report, found, given⟩ | ⟨unfinished, _⟩
    · have key : report.jobId = "" := Table.key_of_find? found
      cases report
      cases given
      cases key
      exact found
    · exact absurd rfl unfinished
  · rcases consistent.2 sampleTranscript rfl polledAgain polledAgain_run 4
      (by decide +kernel) sampleAdmin _ second (.inl rfl) with
      ⟨exc, refused, _⟩ | ⟨later, same, answered⟩
    · cases refused
    · cases same
      exact ⟨_, second, answered⟩

end SystemUni.Workers.Polling
