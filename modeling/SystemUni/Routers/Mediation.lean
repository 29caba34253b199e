import SystemUni.Routers.Atomicity
import SystemUni.Workers.Provenance

/-!
# Complete mediation

Whatever else runs, no endpoint changes the database without asking who the
request comes from: before the change, the token of the request was valid and
its account had one of the roles the endpoint is for.  Registration is open to
anyone; endpoints that read never change anything.
-/

set_option autoImplicit false

namespace SystemUni.Routers.Mediation

open Interleaving Relational
open SystemUni.Runtime.Errors
open SystemUni.Runtime.External
open SystemUni.Runtime.Statements
open SystemUni.Runtime.Atomicity
open SystemUni.Models.Rows
open SystemUni.Models.Jobs
open SystemUni.Models.Schema
open SystemUni.Security.Auth
open SystemUni.Crud.User
open SystemUni.Routers.Api
open SystemUni.Routers.Frame
open SystemUni.Routers.Access
open SystemUni.Routers.Privilege
open SystemUni.Accounts.Frame
open SystemUni.Accounts.Writers
open SystemUni.Workers.Provenance
open SystemUni.Application

/-! ## What the endpoints demand -/

inductive Demand where
  /-- Nobody can change anything. -/
  | reads
  /-- Anyone can. -/
  | anyone
  /-- An account with one of these roles can. -/
  | roles (allowed : List UserRole)
  deriving DecidableEq

def tableDemand {ι υ : Type} : TableRoute ι υ → Demand
  | .create _ => .roles [.admin]
  | .read _ => .reads
  | .list _ _ => .reads
  | .update _ _ => .roles [.admin]
  | .delete _ => .roles [.admin]

def demand : Route → Demand
  | .healthCheck => .reads
  | .getTranscript _ => .reads
  | .exportTranscriptAsync _ => .roles adminOrUser
  | .getJobStatus _ => .reads
  | .college route => tableDemand route
  | .course route => tableDemand route
  | .courseOffering route => tableDemand route
  | .department route => tableDemand route
  | .teacher route => tableDemand route
  | .student route => tableDemand route
  | .linkStudentUser _ _ => .roles [.admin]
  | .enrollment route => tableDemand route
  | .courseSchedule route => tableDemand route
  | .getCurrentUser => .reads
  | .updateCurrentUser _ => .roles authenticatedUser
  | .getCurrentStudent => .reads
  | .user route => tableDemand route
  | .registerUser _ => .anyone
  | .loginUser _ => .reads

/-- The demand is met at moments of this kind: the token is valid by a clock
that was read, and the account is as it was in tables at another moment. -/
def Granted (moment : Time → Tables → Prop) (libraries : Libraries)
    (credentials : Option String) : Demand → Prop
  | .reads => False
  | .anyone => True
  | .roles allowed => ∃ now tables user, (∃ seen, moment now seen) ∧
      (∃ reading, moment reading tables) ∧ user.role ∈ allowed ∧
      Authenticated libraries now credentials user tables

/-- Statements are executed at such moments. -/
def moments (moment : Time → Tables → Prop) : Condition university :=
  fun _ choice store => moment choice.now (committed store)

def changeScope (moment : Time → Tables → Prop) :
    Scope university (Tables × Queue) where
  view := database
  condition := moments moment
  law _ _ _ _ _ := True

/-- The account of the request, at moments of this kind. -/
def IsRequester (moment : Time → Tables → Prop) (libraries : Libraries)
    (credentials : Option String) (user : User) : Prop :=
  ∃ now tables, (∃ seen, moment now seen) ∧
    (∃ reading, moment reading tables) ∧
    Authenticated libraries now credentials user tables

theorem settles_getCurrentUser {ν : Type} {scope : Scope university ν}
    {moment : Time → Tables → Prop} {libraries : Libraries}
    {credentials : Option String} (idles : Idles scope)
    (timed : ∀ label choice store, scope.condition label choice store →
      moment choice.now (committed store)) :
    Settles scope (getCurrentUser libraries credentials)
      (IsRequester moment libraries credentials) fun _ => True := by
  cases credentials with
  | none => exact settles_throw trivial
  | some token =>
      refine settles_bind fun me clock before _ admitted =>
        ⟨idles _ _ _ _, rfl, ?_⟩
      have clockSeen := timed _ clock before admitted
      change Settles scope (checkToken libraries clock.now token) _ _
      unfold checkToken
      cases decoded : decodeAccessToken libraries clock.now token with
      | none => exact settles_throw trivial
      | some claims =>
          refine settles_bind (settles_reads idles ?_ fun _ => trivial)
          intro choice store admittedRead
          have seen := timed _ choice store admittedRead
          cases found : store.db.tables.users.find? claims.1 with
          | none => exact settles_throw trivial
          | some user =>
              by_cases version : (user.tokenVersion : Int) = claims.2
              · have accepted : admitUser (some user) claims.2 = .ok user :=
                  if_neg (not_not_intro version)
                rw [accepted]
                exact settles_pure ⟨clock.now, committed store,
                  ⟨_, clockSeen⟩, ⟨_, seen⟩, token, claims.1, claims.2, rfl,
                  decoded, found, version⟩
              · have refused : admitUser (some user) claims.2 =
                    .error invalidToken := if_pos version
                rw [refused]
                exact settles_throw trivial

/-- A session ends with a rollback, whatever the request has answered. -/
theorem settles_getDb {ν α : Type} {scope : Scope university ν}
    {program : Py α} {post : α → Prop}
    (rolls : Settles scope rollback (fun _ => True) fun _ => True)
    (first : Settles scope program post fun _ => True) :
    Settles scope (getDb program) post fun _ => True := by
  have raises (exc : Exc) : Settles scope (do
      rollback
      throw exc : Py α) post fun _ => True :=
    settles_bind (settles_mono rolls (fun _ _ => settles_throw trivial)
      fun _ holds => holds)
  have handled : Settles scope (tryCatch program fun exc => do
      rollback
      throw exc) post fun _ => True :=
    settles_tryCatch (settles_mono first (fun _ holds => holds)
      fun exc _ => raises exc)
  refine settles_bind (settles_tryCatch (settles_mono handled ?_
    fun exc _ => raises exc))
  intro value holds
  exact settles_bind (settles_mono rolls (fun _ _ => settles_pure holds)
    fun _ holds => holds)

section Requests

variable {moment : Time → Tables → Prop} {libraries : Libraries}
  {settings : Settings} {credentials : Option String} {α β : Type}

/-- The program changes nothing, and answers only what meets the condition. -/
abbrev Idle (moment : Time → Tables → Prop) (program : Py α)
    (post : α → Prop) : Prop :=
  Settles (changeScope moment) program post fun _ => True

theorem idle_of_leaves {program : Py α} (leaves : Leaves database program) :
    Idle moment program fun _ => True :=
  settles_of_leaves (changeScope moment) (fun _ _ _ _ _ => trivial) leaves

/-! ## The dependencies -/

theorem idle_getCurrentUser :
    Idle moment (getCurrentUser libraries credentials)
      (IsRequester moment libraries credentials) :=
  settles_getCurrentUser (fun _ _ _ _ => trivial) fun _ _ _ seen => seen

theorem idle_requireRoles (allowed : List UserRole) :
    Idle moment (requireRoles libraries allowed credentials) fun _ =>
      Granted moment libraries credentials (.roles allowed) := by
  refine settles_bind (settles_mono idle_getCurrentUser ?_ fun _ _ => trivial)
  rintro user ⟨now, tables, clock, reading, authenticated⟩
  split
  · exact settles_throw trivial
  · rename_i contained
    have isAllowed : user.role ∈ allowed := by simpa using contained
    exact settles_pure
      ⟨now, tables, user, clock, reading, isAllowed, authenticated⟩

/-- Nothing is reached behind a demand that is not met. -/
theorem idle_guarded {allowed : List UserRole} {handler : User → Py β}
    (refused : ¬ Granted moment libraries credentials (.roles allowed)) :
    Idle moment (requireRoles libraries allowed credentials >>= handler)
      fun _ => True :=
  settles_bind (settles_mono (idle_requireRoles allowed)
    (fun _ granted => absurd granted refused) fun _ _ => trivial)

theorem idle_table {ι υ : Type} {endpoints : TableEndpoints ι υ}
    (reads : ∀ user rowId, Leaves database (endpoints.read user rowId))
    (lists : ∀ user skip limit,
      Leaves database (endpoints.list user skip limit))
    (route : TableRoute ι υ)
    (refused : ¬ Granted moment libraries credentials (tableDemand route)) :
    Idle moment (endpoints.program libraries credentials route)
      fun _ => True := by
  cases route with
  | create payload => exact idle_guarded refused
  | read rowId =>
      exact idle_of_leaves (leaves_bind (leaves_requireRoles _ credentials)
        fun user => reads user rowId)
  | list skip limit =>
      exact idle_of_leaves (leaves_bind (leaves_requireRoles _ credentials)
        fun user => lists user skip limit)
  | update payload rowId => exact idle_guarded refused
  | delete rowId => exact idle_guarded refused

/-! ## All endpoints -/

theorem idle_program (route : Route)
    (refused : ¬ Granted moment libraries credentials (demand route)) :
    Idle moment (route.program libraries settings credentials)
      fun _ => True := by
  cases route with
  | healthCheck => exact idle_of_leaves (leaves_silent leaves_healthCheck)
  | getTranscript studentId =>
      exact idle_of_leaves (leaves_bind (leaves_requireRoles _ credentials)
        fun user => leaves_silent (leaves_getTranscript studentId user))
  | exportTranscriptAsync studentId => exact idle_guarded refused
  | getJobStatus jobId =>
      exact idle_of_leaves (leaves_bind (leaves_requireRoles _ credentials)
        fun user => leaves_silent (leaves_getJobStatus jobId user))
  | college route =>
      exact idle_table (fun _ _ => leaves_silent (leaves_readRow _ _ _))
        (fun _ _ _ => leaves_silent (leaves_readRows _ _ _)) route refused
  | course route =>
      exact idle_table (fun _ _ => leaves_silent (leaves_readRow _ _ _))
        (fun _ _ _ => leaves_silent (leaves_readRows _ _ _)) route refused
  | courseOffering route =>
      exact idle_table (fun _ _ => leaves_silent (leaves_readRow _ _ _))
        (fun _ _ _ => leaves_silent (leaves_readRows _ _ _)) route refused
  | department route =>
      exact idle_table (fun _ _ => leaves_silent (leaves_readRow _ _ _))
        (fun _ _ _ => leaves_silent (leaves_readRows _ _ _)) route refused
  | teacher route =>
      exact idle_table (fun _ _ => leaves_silent (leaves_readRow _ _ _))
        (fun _ _ _ => leaves_silent (leaves_readRows _ _ _)) route refused
  | student route =>
      exact idle_table
        (fun user studentId => leaves_silent
          (leaves_readStudent (fun _ _ => rfl) studentId user))
        (fun user skip limit =>
          leaves_silent (leaves_readStudents user skip limit)) route refused
  | linkStudentUser studentId userId => exact idle_guarded refused
  | enrollment route =>
      exact idle_table
        (fun user enrollmentId =>
          leaves_silent (leaves_readEnrollment enrollmentId user))
        (fun user skip limit =>
          leaves_silent (leaves_readEnrollments user skip limit)) route refused
  | courseSchedule route =>
      exact idle_table (fun _ _ => leaves_silent (leaves_readRow _ _ _))
        (fun _ _ _ => leaves_silent (leaves_readRows _ _ _)) route refused
  | getCurrentUser =>
      exact idle_of_leaves (leaves_silent (leaves_getCurrentUser credentials))
  | updateCurrentUser userUpdate =>
      refine settles_bind (settles_mono idle_getCurrentUser ?_
        fun _ _ => trivial)
      rintro user ⟨now, tables, clock, reading, authenticated⟩
      have anyRole : user.role ∈ authenticatedUser := by
        cases user.role <;> decide
      exact absurd
        ⟨now, tables, user, clock, reading, anyRole, authenticated⟩ refused
  | getCurrentStudent =>
      exact idle_of_leaves (leaves_bind (leaves_getCurrentUser credentials)
        fun user => leaves_silent (leaves_getCurrentStudentEndpoint user))
  | user route =>
      exact idle_table (fun _ userId => leaves_silent (leaves_readUser userId))
        (fun _ skip limit => leaves_silent (leaves_readUsers skip limit)) route
        refused
  | registerUser payload => exact absurd trivial refused
  | loginUser userLogin =>
      exact idle_of_leaves (leaves_bind leaves_limited fun _ =>
        leaves_silent (leaves_loginUser userLogin))

theorem idle_rollback : Idle moment rollback fun _ => True :=
  fun _ _ _ _ _ => ⟨trivial, rfl, trivial⟩

theorem idle_serve (route : Route)
    (refused : ¬ Granted moment libraries credentials (demand route)) :
    Idle moment (route.serve libraries settings credentials)
      fun _ => True :=
  settles_getDb idle_rollback (idle_program route refused)

end Requests

/-! ## Runs -/

/-- In every run, at the moments of which `moment` holds: where a statement of
a request changes the committed database, what its endpoint demands has been
met since the request began. -/
theorem changes_are_mediated (libraries : Libraries) (settings : Settings)
    (moment : Time → Tables → Prop) (credentials : Option String)
    (route : Route) (thread : Nat)
    (first config next : Config university (Except Exc Unit))
    (serving : first.threads[thread]? =
      some (route.serve libraries settings credentials).run)
    (before : Run (application libraries settings) (moments moment) first
      config)
    (label : Label) (choice : Choice)
    (transition : Transition (application libraries settings) config
      (.act thread label choice) next)
    (seen : moment choice.now (committed config.store))
    (changes : database next.store ≠ database config.store) :
    Granted moment libraries credentials (demand route) := by
  by_contra refused
  exact changes (changes_never (changeScope moment)
    (idle_serve route refused) serving before transition seen)

/-- The clock and the account of a run in which a student exports. -/
def askingMoment (now : Time) (tables : Tables) : Prop :=
  now = 0 ∧ tables.users.rows = linkedTables.users.rows

instance (now : Time) (tables : Tables) :
    Decidable (askingMoment now tables) := inferInstanceAs (Decidable (_ ∧ _))

def askingCheck (_ : Label) (choice : Choice) (store : Store) : Bool :=
  decide (askingMoment choice.now (committed store))

theorem askingCheck_moments (label : Label) (choice : Choice) (store : Store)
    (checked : askingCheck label choice store = true) :
    moments askingMoment label choice store := by
  have seen : askingMoment choice.now (committed store) :=
    of_decide_eq_true checked
  exact seen

/-- The student is about to queue the export. -/
def asking : Config university (Except Exc Unit) :=
  exporting.played sampleApplication askingCheck (plain (List.replicate 4 0))

def asked : Config university (Except Exc Unit) :=
  asking.played sampleApplication askingCheck [⟨0, {}⟩]

theorem asked_jobs : asked.store.queue.jobs.rows.length = 1 := by cbv

theorem asking_jobs : asking.store.queue.jobs.rows.length = 0 := by cbv

theorem changes_are_mediated_asking :
    Granted askingMoment sampleLibraries (some "first")
      (.roles adminOrUser) := by
  refine changes_are_mediated sampleLibraries .default askingMoment
    (some "first") (.exportTranscriptAsync 1) 0 exporting asking asked rfl
    (exporting.played_run sampleApplication askingCheck (moments askingMoment)
      askingCheck_moments _ (by cbv)) (.queue .exportTranscript) {}
    (asking.played_transition sampleApplication askingCheck ⟨0, {}⟩ (by cbv)
      (by cbv)) ⟨rfl, by cbv⟩ ?_
  intro same
  have jobs : asked.store.queue.jobs.rows.length =
      asking.store.queue.jobs.rows.length :=
    congrArg (fun seen : Tables × Queue => seen.2.jobs.rows.length) same
  rw [asked_jobs, asking_jobs] at jobs
  cases jobs

end SystemUni.Routers.Mediation
