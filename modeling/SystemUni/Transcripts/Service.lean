import SystemUni.Routers.Frame
import SystemUni.Transcripts.Discipline

/-!
# Exports, polls and everything that decides who may make them

Each request authenticates in the session it runs in.
-/

set_option autoImplicit false

namespace SystemUni.Transcripts.Service

open Interleaving Relational
open SystemUni.Runtime.Errors
open SystemUni.Runtime.External
open SystemUni.Runtime.Statements
open SystemUni.Runtime.Rules
open SystemUni.Models.Rows
open SystemUni.Models.Changes
open SystemUni.Models.Jobs
open SystemUni.Models.Schema
open SystemUni.Security.Auth
open SystemUni.Routers.Reports
open SystemUni.Routers.Frame
open SystemUni.Workers.Tasks
open SystemUni.Workers.Runner
open SystemUni.Workers.Frame
open SystemUni.Workers.Queue
open SystemUni.Workers.Execution
open SystemUni.Crud.User
open SystemUni.Crud.Student
open SystemUni.Accounts.Frame
open SystemUni.Accounts.Service
open SystemUni.Students.Frame
open SystemUni.Students.Discipline
open SystemUni.Students.Requests
open SystemUni.Students.Service
open SystemUni.Transcripts.Discipline

/-- A poll is remembered with the row its credentials were resolved to. -/
inductive Response where
  | done
  | polled (user : User) (response : PollResponse)
  deriving DecidableEq

def finish {α : Type} (request : Py α) : Py Response := do
  let _ ← request
  return .done

/-- `export_transcript_async` with its dependencies. -/
def exportAs (libraries : Libraries) (credentials : Option String)
    (studentId : Id) : Py ExportResponse := do
  let currentUser ← requireAdminOrUser libraries credentials
  exportTranscriptAsync studentId currentUser

/-- `get_job_status` and the response it ends in: `get_db` rolls back before an
exception becomes one. -/
def respond (jobId : String) (currentUser : User) : Py Response :=
  tryCatch
    (do
      let data ← getJobStatus jobId currentUser
      return .polled currentUser (.shown data))
    fun exc => do
      rollback
      return .polled currentUser (.refused exc)

/-- `get_job_status` with its dependencies. -/
def pollAs (libraries : Libraries) (credentials : Option String)
    (jobId : String) : Py Response := do
  let currentUser ← requireAdminOrUser libraries credentials
  respond jobId currentUser

/-- The part of the store that students and the queue are part of. -/
def transcriptView (store : Store) :
    (Table Student.id × (Id → Option CacheEntry) × List (Id × WriteMark)) ×
      Queue :=
  (studentView store, store.queue)

inductive TranscriptRequest (libraries : Libraries) (settings : Settings) :
    Py Response → Prop where
  | registerUser (user : UserRegister) :
      TranscriptRequest libraries settings
        (finish (serve (registerUser libraries user)))
  | updateUser (userUpdate : UserUpdate) (userId : Id) :
      TranscriptRequest libraries settings
        (finish (serve (updateUser libraries userUpdate userId)))
  | deleteUser (userId : Id) :
      TranscriptRequest libraries settings (finish (serve (deleteUser userId)))
  | updateStudent (studentUpdate : StudentUpdate) (studentId : Id) :
      TranscriptRequest libraries settings
        (finish (serve (updateStudent studentUpdate studentId)))
  | linkStudentToUser (studentId userId : Id) :
      TranscriptRequest libraries settings
        (finish (serve (linkStudentToUser studentId userId)))
  | deleteStudent (studentId : Id) :
      TranscriptRequest libraries settings
        (finish (serve (deleteStudent studentId)))
  | exportTranscriptAsync (credentials : Option String) (studentId : Id) :
      TranscriptRequest libraries settings
        (finish (serve (exportAs libraries credentials studentId)))
  | getJobStatus (credentials : Option String) (jobId : String) :
      TranscriptRequest libraries settings
        (getDb (pollAs libraries credentials jobId))
  | runOnce : TranscriptRequest libraries settings (finish (runOnce settings))
  | reconcileOnce :
      TranscriptRequest libraries settings (finish reconcileOnce)
  | other {α : Type} (program : Py α)
      (leaves : Leaves transcriptView program) :
      TranscriptRequest libraries settings (finish program)

def transcriptSystem (libraries : Libraries) (settings : Settings) :
    System university (Except Exc Response) where
  start _ := TranscriptRequest libraries settings
  code child := finish (heartbeat settings child)

/-! ## What the requests leave alone -/

section Leaves

variable {ν : Type} {view : Store → ν} {libraries : Libraries}

theorem leaves_pollAs (beside : BesideLocks view)
    (credentials : Option String) (jobId : String) :
    Leaves view (getDb (pollAs libraries credentials jobId)) := by
  refine leaves_getDb beside (leaves_bind
    (leaves_requireRoles _ credentials) fun user => ?_)
  exact leaves_tryCatch
    (leaves_bind (leaves_getJobStatus jobId user) fun _ => leaves_pure)
    fun _ => leaves_bind (leaves_rollback beside) fun _ => leaves_pure

theorem leaves_exports {α : Type} {program : Py α}
    (leaves : Leaves Store.queue program) : Leaves exports program :=
  leaves.map Queue.exports

theorem exports_besideWorkers : Beside custodyView where
  queue _ _ same := congrArg (Prod.mk _) same
  events _ _ _ := rfl

end Leaves

/-! ## Jobs and their exports -/

section Queue

variable {settings : Settings} {libraries : Libraries} {me : Nat}
  {store : Store}

/-- What is known of a response from the queue alone. -/
def responseOk (response : Response) (store : Store) : Prop :=
  match response with
  | .done => True
  | .polled user (.shown data) => Shown user data store.queue
  | .polled _ (.refused exc) =>
      exc = jobNotFound ∨ exc.isSqlAlchemyError = true

theorem runs_finish {α : Type} {request : Py α}
    (runs : Runs (queueDiscipline settings) me request
      (fun _ _ => True) (fun _ _ => True) store) :
    Runs (queueDiscipline settings) me (finish request) responseOk
      (fun _ _ => True) store :=
  runs_bind (runs_mono runs (fun _ _ _ => runs_pure _ trivial)
    fun _ _ _ => trivial)

theorem runs_queueBystander {α : Type} {program : Py α}
    (leaves : Leaves Store.queue program)
    (wellFormed : WellFormed store.queue) :
    Runs (queueDiscipline settings) me program (fun _ _ => True)
      (fun _ _ => True) store :=
  runs_leaves leaves wellFormed (fun _ _ _ => trivial) fun _ _ _ => trivial

theorem queue_rollback {post : Unit → Store → Prop}
    {fail : Exc → Store → Prop} (wellFormed : WellFormed store.queue)
    (returns : ∀ later, Later (queueDiscipline settings) me store later →
      post () later) :
    Runs (queueDiscipline settings) me rollback post fail store := by
  refine runs_command ?_
  intro choice _
  exact ⟨wellFormed, .unchanged (.account .rollback) choice,
    fun later follows => returns later ⟨follows.inv, follows.rely⟩⟩

/-- `get_db` around a request, for what stays true of an answer. -/
theorem runs_queueSession {α : Type} {request : Py α}
    {post : α → Store → Prop}
    (stable : ∀ value before after, post value before →
      Evolves before.queue after.queue → post value after)
    (wellFormed : WellFormed store.queue)
    (runs : Runs (queueDiscipline settings) me request post
      (fun _ _ => True) store) :
    Runs (queueDiscipline settings) me (getDb request) post
      (fun _ _ => True) store := by
  refine runs_withFinally (runs_tryCatch (runs_mono
    (runs_inv (D := queueDiscipline settings) wellFormed runs) ?_ ?_))
  · intro value later kept
    exact queue_rollback kept.1
      fun last follows => stable value later last kept.2 follows.rely
  · intro exc later kept
    refine runs_bind (queue_rollback kept.1 fun last follows => ?_)
    exact runs_throw _ (queue_rollback follows.inv fun _ _ => trivial)

theorem Shown.evolves {user : User} {data : JobData} {queue later : Queue}
    (shown : Shown user data queue) (evolves : Evolves queue later) :
    Shown user data later := by
  obtain ⟨job, member, sameJob, sameOwner, sameTarget⟩ := shown.job
  obtain ⟨next, nextMember, same⟩ := evolves.jobs job member
  exact ⟨shown.allowed, next, nextMember, same.jobId.trans sameJob,
    same.ownerId.trans sameOwner, same.targetId.trans sameTarget⟩

theorem responseOk_stable (response : Response) (before after : Store)
    (ok : responseOk response before)
    (evolves : Evolves before.queue after.queue) :
    responseOk response after := by
  cases response with
  | done => trivial
  | polled user response =>
      cases response with
      | shown data => exact Shown.evolves ok evolves
      | refused exc => exact ok

theorem runs_authenticated {α : Type} {credentials : Option String}
    {request : User → Py α} {post : α → Store → Prop}
    (wellFormed : WellFormed store.queue)
    (runs : ∀ user later, WellFormed later.queue →
      Runs (queueDiscipline settings) me (request user) post
        (fun _ _ => True) later) :
    Runs (queueDiscipline settings) me
      (requireAdminOrUser libraries credentials >>= request) post
      (fun _ _ => True) store :=
  runs_bind (runs_leaves (leaves_requireRoles _ credentials) wellFormed
    (fun _ _ _ => trivial) fun user later follows => runs user later follows.inv)

theorem runs_pollAs {credentials : Option String} {jobId : String}
    (wellFormed : WellFormed store.queue) :
    Runs (queueDiscipline settings) me
      (getDb (pollAs libraries credentials jobId)) responseOk
      (fun _ _ => True) store := by
  refine runs_queueSession responseOk_stable wellFormed
    (runs_authenticated wellFormed ?_)
  intro user later laterWellFormed
  refine runs_tryCatch (runs_bind (runs_mono (runs_inv laterWellFormed
    (runs_getJobStatus laterWellFormed)) ?_ ?_))
  · exact fun data last shown => runs_pure _ shown.2.1
  · intro exc last refused
    exact runs_bind (queue_rollback refused.1
      fun _ _ => runs_pure _ (refused.2.imp_left And.left))

theorem runs_queueRequest {program : Py Response}
    (request : TranscriptRequest libraries settings program)
    (wellFormed : WellFormed store.queue) :
    Runs (queueDiscipline settings) me program responseOk (fun _ _ => True)
      store := by
  have served : ∀ {α : Type} {request : Py α}, Leaves Store.queue request →
      Runs (queueDiscipline settings) me (finish (serve request)) responseOk
        (fun _ _ => True) store := fun leaves =>
    runs_finish (runs_queueBystander
      (leaves_serve queue_besideDatabase.toBesideLocks leaves) wellFormed)
  cases request with
  | registerUser user =>
      exact served (leaves_registerUser queue_besideDatabase.toBesideLocks
        (fun store _ db _ => queue_besideDatabase.tables store db) user)
  | updateUser userUpdate userId =>
      exact served (leaves_updateUser queue_besideDatabase.toBesideUsers
        userUpdate userId)
  | deleteUser userId =>
      exact served (leaves_deleteUser queue_besideDatabase userId)
  | updateStudent studentUpdate studentId =>
      exact served (leaves_updateStudent queue_besideDatabase studentUpdate
        studentId)
  | linkStudentToUser studentId userId =>
      exact served (leaves_linkStudentToUser queue_besideDatabase studentId
        userId)
  | deleteStudent studentId =>
      exact served (leaves_deleteStudent queue_besideDatabase studentId)
  | exportTranscriptAsync credentials studentId =>
      refine runs_finish (runs_queueSession (fun _ _ _ _ _ => trivial)
        wellFormed (runs_bind (runs_authenticated wellFormed ?_)))
      intro user later laterWellFormed
      exact runs_mono (runs_exportTranscriptAsync laterWellFormed)
        (fun _ _ _ => runs_pure _ trivial) fun _ _ _ => trivial
  | getJobStatus credentials jobId => exact runs_pollAs wellFormed
  | runOnce =>
      exact runs_finish (runs_mono (runs_runOnce wellFormed)
        (fun _ _ _ => trivial) fun _ _ _ => trivial)
  | reconcileOnce => exact runs_finish (runs_reconcileOnce wellFormed)
  | other program leaves =>
      exact runs_finish (runs_queueBystander (leaves.map Prod.snd) wellFormed)

end Queue

/-! ## Custody -/

section Custody

variable {settings : Settings} {libraries : Libraries} {me : Nat}
  {store : Store}

abbrev Holds (_ : Response) (_ : Store) : Prop := True

theorem runs_finishKept {α : Type} {request : Py α}
    (runs : Runs custodyDiscipline me request EntitledStill EntitledStill
      store) :
    Runs custodyDiscipline me (finish request) Holds (fun _ _ => True)
      store :=
  runs_bind (runs_mono runs (fun _ _ _ => runs_pure _ trivial)
    fun _ _ _ => trivial)

theorem runs_bystanderKept {α : Type} {program : Py α}
    (leaves : Leaves custodyView program)
    (entitled : custodyDiscipline.inv store) :
    Runs custodyDiscipline me program EntitledStill EntitledStill store :=
  runs_bystander leaves entitled (fun _ _ follows => follows.inv)
    fun _ _ follows => follows.inv

theorem custodyView_besideLocks : BesideLocks custodyView where
  lock _ _ _ := rfl
  release _ _ := rfl

theorem custodyView_besideUsers : BesideUsers custodyView where
  toBesideLocks := custodyView_besideLocks
  saved store userId change db flushed :=
    congrArg (fun view => (view, exports store))
      (studentView_beside.saved store userId change db flushed)

theorem custodyView_inserted (store : Store) (user : User) (db : Database)
    (inserted : insertUser user store.db.tables = .ok db.tables) :
    custodyView (store.setTables db) = custodyView store := by
  obtain ⟨_, same⟩ := insertUser_ok inserted
  have students : db.tables.students = store.db.tables.students := by
    rw [same]
  change ((db.tables.students, store.cache, store.returned), exports store) = _
  rw [students]
  rfl

theorem runs_servedStudent (libraries : Libraries) {α : Type}
    {request : Py α}
    (leaves : Leaves Store.queue request)
    (entitled : custodyDiscipline.inv store)
    (keeps : ∀ later, Keeps libraries False me request later) :
    Runs custodyDiscipline me (finish (serve request)) Holds (fun _ _ => True)
      store := by
  have exportsLeft : Leaves exports (serve request) :=
    leaves_exports (leaves_serve queue_besideDatabase.toBesideLocks leaves)
  have kept : Keeps libraries False me (serve request) store :=
    keeps_serve (keeps store)
  exact runs_finishKept (runs_mono
    (runs_inv entitled (runs_custody exportsLeft entitled kept))
    (fun _ _ holds => holds.1) fun _ _ holds => holds.1)

theorem runs_exportAs {credentials : Option String} {studentId : Id}
    (entitled : custodyDiscipline.inv store) :
    Runs custodyDiscipline me
      (serve (exportAs libraries credentials studentId))
      EntitledStill EntitledStill store := by
  have exporting : Runs custodyDiscipline me
      (do
        let _ ← exportAs libraries credentials studentId
        return ())
      (fun _ later => custodyDiscipline.inv later ∧ True) EntitledStill
      store := by
    refine runs_bind (runs_bind (runs_bystander
      (leaves_requireRoles _ credentials) entitled
      (fun _ _ follows => follows.inv) ?_))
    intro user later follows
    exact runs_mono (runs_export follows.inv)
      (fun _ _ kept => runs_pure () ⟨kept, trivial⟩) fun _ _ kept => kept
  have rolls : ∀ later, custodyDiscipline.inv later →
      Runs custodyDiscipline me rollback EntitledStill EntitledStill later :=
    fun later kept =>
      runs_bystanderKept (leaves_rollback custodyView_besideLocks) kept
  exact runs_mono (runs_session (fun _ => True) rolls exporting)
    (fun _ _ kept => kept.1) fun _ _ kept => kept

theorem runs_custodyRequest {program : Py Response}
    (request : TranscriptRequest libraries settings program)
    (entitled : custodyDiscipline.inv store) :
    Runs custodyDiscipline me program Holds (fun _ _ => True) store := by
  have served : ∀ {α : Type} {request : Py α}, Leaves custodyView request →
      Runs custodyDiscipline me (finish (serve request)) Holds
        (fun _ _ => True) store := fun leaves =>
    runs_finishKept (runs_bystanderKept
      (leaves_serve custodyView_besideLocks leaves) entitled)
  cases request with
  | registerUser user =>
      exact served (leaves_registerUser custodyView_besideLocks
        custodyView_inserted user)
  | updateUser userUpdate userId =>
      exact served (leaves_updateUser custodyView_besideUsers userUpdate userId)
  | deleteUser userId =>
      exact runs_servedStudent libraries (leaves_deleteUser queue_besideDatabase userId) entitled
        fun _ => runs_deleteUser nofun
  | updateStudent studentUpdate studentId =>
      exact runs_servedStudent libraries (leaves_updateStudent queue_besideDatabase studentUpdate studentId)
        entitled fun _ => runs_updateStudent nofun
  | linkStudentToUser studentId userId =>
      exact runs_servedStudent libraries (leaves_linkStudentToUser queue_besideDatabase studentId userId)
        entitled fun _ => runs_linkStudentToUser nofun
  | deleteStudent studentId =>
      exact runs_servedStudent libraries (leaves_deleteStudent queue_besideDatabase studentId) entitled
        fun _ => runs_deleteStudent nofun
  | exportTranscriptAsync credentials studentId =>
      exact runs_finishKept (runs_exportAs entitled)
  | getJobStatus credentials jobId =>
      exact runs_mono (runs_bystanderKept
        (leaves_pollAs custodyView_besideLocks credentials jobId) entitled)
        (fun _ _ _ => trivial) fun _ _ _ => trivial
  | runOnce =>
      exact runs_finishKept (runs_bystanderKept
        (leaves_runOnce exports_besideWorkers settings) entitled)
  | reconcileOnce =>
      exact runs_finishKept (runs_bystanderKept
        (leaves_reconcileOnce exports_besideWorkers.toBesideJobs) entitled)
  | other program leaves =>
      have kept : Leaves custodyView program :=
        leaves.map (Prod.map id Queue.exports)
      exact runs_finishKept (runs_bystanderKept kept entitled)

end Custody

/-! ## Every run -/

/-- What is known of a finished thread. -/
abbrev responded : Except Exc Response → Store → Prop :=
  @outcome university Exc Response responseOk fun _ _ => True

theorem transcript_obeys (libraries : Libraries) (settings : Settings) :
    Obeys (transcriptSystem libraries settings)
      ((queueDiscipline settings).both custodyDiscipline)
      (fun answer store => responded answer store ∧
        @outcome university Exc Response Holds (fun _ _ => True) answer
          store) := by
  refine Obeys.both ⟨?_, ?_⟩ ⟨?_, ?_⟩
  · exact fun _ _ _ _ request _ wellFormed _ =>
      runs_queueRequest request wellFormed
  · intro me child _ _ store wellFormed _
    cases child with
    | heartbeat claim execution =>
        exact runs_finish (runs_heartbeatLoop wellFormed)
  · exact fun _ _ _ _ request _ entitled _ =>
      runs_custodyRequest request entitled
  · intro me child _ _ store entitled _
    cases child with
    | heartbeat claim execution =>
        exact runs_finishKept (runs_bystanderKept (leaves_heartbeatLoop
          exports_besideWorkers.toBesideJobs settings claim execution) entitled)

end SystemUni.Transcripts.Service
