import SystemUni.Transcripts.Service

/-!
# Whose transcript a user can poll

A poll is decided by the owner of the job alone.  The owner was entitled to the
export, but as an administrator to anybody's: who is demoted later keeps the
jobs.
-/

set_option autoImplicit false

namespace SystemUni.Transcripts.Ownership

open Interleaving Relational
open SystemUni.Runtime.Errors
open SystemUni.Runtime.External
open SystemUni.Runtime.Statements
open SystemUni.Runtime.Rules
open SystemUni.Models.Rows
open SystemUni.Models.Changes
open SystemUni.Models.Jobs
open SystemUni.Models.Schema
open SystemUni.Security.Auth
open SystemUni.Routers.Reports
open SystemUni.Workers.Queue
open SystemUni.Workers.Execution
open SystemUni.Crud.User
open SystemUni.Accounts.Service
open SystemUni.Transcripts.Discipline
open SystemUni.Transcripts.Service

/-- The export of the job shown, by this user. -/
def ExportedBy (user : User) (data : JobData) (record : Export) : Prop :=
  record.jobId = data.jobId ∧ record.targetId = data.targetId ∧
    record.ownerId = user.id

theorem exported_of_shown {queue : Queue} (wellFormed : WellFormed queue)
    {user : User} {data : JobData} (role : user.role = .user)
    (shown : Shown user data queue) :
    ∃ record ∈ queue.exports, ExportedBy user data record := by
  obtain ⟨job, member, sameJob, sameOwner, sameTarget⟩ := shown.job
  obtain ⟨record, recorded, recordJob, recordOwner, recordTarget⟩ :=
    (wellFormed.jobs job member).exported
  have owner : user.id = data.ownerId := by
    rcases shown.allowed with admin | owns
    · rw [role] at admin
      cases admin
    · exact owns
  exact ⟨record, recorded, recordJob.trans sameJob,
    recordTarget.trans sameTarget,
    recordOwner.trans (sameOwner.trans owner.symm)⟩

/-- Whoever polls a job as a mere user, and is not told that there is none,
queued it, as an administrator or while the student was linked to them.  Apart
from 404 only a failing database refuses the poll. -/
theorem results_stay_with_owner (libraries : Libraries) (settings : Settings)
    (initial : Store) (empty : initial.queue = {})
    (config : Config university (Except Exc Response))
    (reachable : Reachable (transcriptSystem libraries settings) keepsRows
      initial config) (user : User) (role : user.role = .user)
    (response : PollResponse)
    (finished : Prog.ret (.ok (.polled user response)) ∈ config.threads)
    (found : response ≠ .refused jobNotFound) :
    (∃ exc, response = .refused exc ∧ exc.isSqlAlchemyError = true) ∨
      ∃ data, response = .shown data ∧
        ∃ record ∈ config.store.queue.exports, ExportedBy user data record ∧
          (record.ownerRole = .admin ∨ record.linkedUser = some user.id) := by
  have invariant : WellFormed initial.queue ∧
      ∀ record ∈ exports initial, Entitled record := by
    unfold exports
    rw [empty]
    exact ⟨wellFormed_empty, nofun⟩
  have disciplined := (transcript_obeys libraries settings).sound invariant
    (reachable.weaken fun _ _ _ kept => ⟨trivial, kept⟩)
  have ok : responseOk (.polled user response) config.store :=
    (disciplined.finished finished).1
  cases response with
  | refused exc =>
      rcases ok with notFound | failed
      · rw [notFound] at found
        exact absurd rfl found
      · exact .inl ⟨exc, rfl, failed⟩
  | shown data =>
      obtain ⟨record, recorded, exported⟩ :=
        exported_of_shown disciplined.inv.1 role ok
      refine .inr ⟨data, rfl, record, recorded, exported, ?_⟩
      rw [← exported.2.2]
      exact disciplined.inv.2 record recorded

/-! ## An administrator who is demoted -/

/-- User 2, still an administrator. -/
def formerAdmin : User := { sampleUser with role := .admin }

def formerTables : Tables :=
  { sampleTables with users := ⟨[sampleAdmin, formerAdmin], by decide⟩ }

def formerStore : Store := { db := ⟨formerTables, by decide⟩ }

def checkSecond (tokenVersion : Int) : Py User := do
  let user ← query fun store => store.db.tables.users.find? 2
  match admitUser user tokenVersion with
  | .error exc => throw exc
  | .ok user => return user

def requireSecond (tokenVersion : Int) : Py User := do
  let user ← now >>= fun _ => checkSecond tokenVersion
  if !([UserRole.admin, .user].contains user.role) then throw forbidden
  return user

theorem requireSecond_eq {token : String} {tokenVersion : Int}
    (decoded : ∀ now, decodeAccessToken sampleLibraries now token =
      some (2, tokenVersion)) :
    requireAdminOrUser sampleLibraries (some token) =
      requireSecond tokenVersion := by
  simp only [requireAdminOrUser, requireRoles, getCurrentUser, checkToken,
    decoded]
  rfl

theorem decoded_first (now : Time) :
    decodeAccessToken sampleLibraries now "first" = some (2, 0) := by
  have parsed : int "2" = some 2 := int_repr 2
  simp [decodeAccessToken, sampleLibraries, asInt, parsed]

theorem decoded_second (now : Time) :
    decodeAccessToken sampleLibraries now "second" = some (2, 1) := by
  have parsed : int "2" = some 2 := int_repr 2
  simp [decodeAccessToken, sampleLibraries, asInt, parsed]

def exportFirst : Py Response :=
  finish (serve do
    let currentUser ← requireSecond 0
    exportTranscriptAsync 1 currentUser)

def demotion : Py Response :=
  finish (serve (updateUser sampleLibraries { role := some .user } 2))

def pollSecond : Py Response :=
  getDb do
    let currentUser ← requireSecond 1
    respond "" currentUser

theorem requests {program : Py Response}
    (member : program ∈ [exportFirst, demotion, pollSecond]) :
    TranscriptRequest sampleLibraries .default program := by
  simp only [List.mem_cons, List.not_mem_nil, or_false] at member
  rcases member with rfl | rfl | rfl
  · rw [exportFirst, ← requireSecond_eq decoded_first]
    exact .exportTranscriptAsync (some "first") 1
  · exact .updateUser { role := some .user } 2
  · rw [pollSecond, ← requireSecond_eq decoded_second]
    exact .getJobStatus (some "second") ""

def kept (label : Label) (_ : Choice) (_ : Store) : Bool :=
  match label with
  | .account (.deleteUser _ _) => false
  | .student (.deleteStudent _) => false
  | _ => true

theorem kept_sound (label : Label) (choice : Choice) (store : Store)
    (checked : kept label choice store = true) :
    keepsRows label choice store := by
  unfold kept at checked
  unfold keepsRows
  split at checked
  · cases checked
  · cases checked
  · split <;> simp_all

/-- The export, the demotion, the poll. -/
def polledAfterDemotion : Config university (Except Exc Response) :=
  Config.played (transcriptSystem sampleLibraries .default) kept
    (plain [0, 0, 0, 0, 0, 0, 1, 1, 1, 1, 1, 1, 1, 2, 2, 2, 2, 2])
    ⟨formerStore, [exportFirst, demotion, pollSecond]⟩

theorem polledAfterDemotion_reachable :
    Reachable (transcriptSystem sampleLibraries .default) keepsRows formerStore
      polledAfterDemotion :=
  (arrivals_run _ _ _ [exportFirst, demotion, pollSecond]
    fun _ member => requests member).trans
    (Config.played_run _ kept keepsRows kept_sound _ _ (by decide +kernel))

def demoted : User := { sampleUser with tokenVersion := 1 }

def queuedData : JobData := ⟨"", .queued, 2, "transcript", 1, none⟩

theorem polledAfterDemotion_finished :
    Prog.ret (.ok (.polled demoted (.shown queuedData))) ∈
      polledAfterDemotion.threads :=
  finished_mem 2 (by decide +kernel)

theorem results_stay_with_owner_demoted :
    ∃ record ∈ polledAfterDemotion.store.queue.exports,
      ExportedBy demoted queuedData record ∧
        (record.ownerRole = .admin ∨
          record.linkedUser = some demoted.id) := by
  have owned := results_stay_with_owner sampleLibraries .default formerStore
    rfl polledAfterDemotion polledAfterDemotion_reachable demoted rfl
    (.shown queuedData) polledAfterDemotion_finished nofun
  rcases owned with ⟨exc, refused, _⟩ | ⟨data, same, record, found⟩
  · cases refused
  · cases same
    exact ⟨record, found⟩

/-- The poll answers with a job whose student was linked to nobody. -/
theorem demoted_polls_other_student :
    ¬ ∀ (libraries : Libraries) (settings : Settings) (initial : Store),
      initial.queue = {} →
      ∀ config, Reachable (transcriptSystem libraries settings) keepsRows
        initial config →
      ∀ (user : User), user.role = .user → ∀ (response : PollResponse),
      Prog.ret (.ok (.polled user response)) ∈ config.threads →
      response ≠ .refused jobNotFound →
      (∃ exc, response = .refused exc ∧ exc.isSqlAlchemyError = true) ∨
        ∃ data, response = .shown data ∧
          ∃ record ∈ config.store.queue.exports, ExportedBy user data record ∧
            record.linkedUser = some user.id := by
  intro stays
  have linked := stays sampleLibraries .default formerStore rfl
    polledAfterDemotion polledAfterDemotion_reachable demoted rfl
    (.shown queuedData) polledAfterDemotion_finished nofun
  have nobody : ∀ record ∈ polledAfterDemotion.store.queue.exports,
      record.linkedUser = none := by decide +kernel
  rcases linked with ⟨exc, refused, _⟩ | ⟨data, _, record, recorded, _, link⟩
  · cases refused
  · rw [nobody record recorded] at link
    cases link

end SystemUni.Transcripts.Ownership
