import SystemUni.Interleaving.Preservation
import SystemUni.Routers.Mediation

/-!
# Entries of the student cache

However reads, writes and outages interleave, an entry of the cache is the dump
of a row that the student has had, and it is stored for a minute.
-/

set_option autoImplicit false

namespace SystemUni.Students.Entries

open Interleaving Relational
open SystemUni.Runtime.Errors
open SystemUni.Runtime.External
open SystemUni.Runtime.Statements
open SystemUni.Runtime.Rules
open SystemUni.Runtime.Atomicity
open SystemUni.Models.Rows
open SystemUni.Models.Changes
open SystemUni.Models.Jobs
open SystemUni.Models.Schema
open SystemUni.Crud.User
open SystemUni.Crud.Student
open SystemUni.Accounts.Frame
open SystemUni.Accounts.Writers
open SystemUni.Students.Frame
open SystemUni.Students.Laws
open SystemUni.Workers.Frame
open SystemUni.Routers.Api
open SystemUni.Routers.Frame
open SystemUni.Routers.Mediation
open SystemUni.Routers.Privilege
open SystemUni.Application
open SystemUni.Cli

/-! ## Entries of the cache -/

/-- Clock readings with the committed tables and the queue. -/
abbrev Moment := Time → Tables × Queue → Prop

/-- Statements are executed at such moments. -/
def snapshots (moment : Moment) : Condition university :=
  fun _ choice store => moment choice.now (database store)

def Ticked (moment : Moment) (now : Time) : Prop := ∃ db, moment now db

def Seen (moment : Moment) (tables : Tables) : Prop :=
  ∃ now queue, moment now (tables, queue)

/-- The row has been the student's. -/
def Committed (moment : Moment) (studentId : Id) (row : Student) : Prop :=
  ∃ tables, Seen moment tables ∧ tables.students.find? studentId = some row

/-- The entry is a dumped row, stored for a minute. -/
def Dumped (libraries : Libraries) (moment : Moment) (studentId : Id)
    (entry : CacheEntry) : Prop :=
  ∃ row stored, Committed moment studentId row ∧ Ticked moment stored ∧
    entry = ⟨libraries.dumpStudent (.ofRow row), stored + 60⟩

def Honest (libraries : Libraries) (moment : Moment) (store : Store) : Prop :=
  ∀ studentId entry, store.cache studentId = some entry →
    Dumped libraries moment studentId entry

abbrev cached (store : Store) : Id → Option CacheEntry := store.cache

theorem cached_onlyStudents : OnlyStudents cached where
  lock _ _ _ := rfl
  release _ _ := rfl
  tables _ _ _ := rfl

theorem cached_besideUsers : BesideUsers cached where
  toBesideLocks := cached_onlyStudents.toBesideLocks
  saved _ _ _ _ _ := rfl

theorem cached_beside : Beside cached :=
  ⟨fun _ _ _ => rfl, fun _ _ _ => rfl⟩

section Programs

variable {libraries : Libraries} {settings : Settings} {ever since : Moment}
  {credentials : Option String} {α β : Type}

/-- Statements at moments of one kind keep the cache honest about moments of
another. -/
def honestScope (libraries : Libraries) (ever since : Moment) :
    Scope university Unit :=
  keepingScope (snapshots since) (Honest libraries ever)

theorem honest_idles : Idles (honestScope libraries ever since) :=
  fun _ _ _ _ honest => honest

abbrev StaysHonest (libraries : Libraries) (ever since : Moment)
    (program : Py α) (post : α → Prop) : Prop :=
  Settles (honestScope libraries ever since) program post fun _ => True

theorem honest_of_leaves {program : Py α} (leaves : Leaves cached program) :
    StaysHonest libraries ever since program fun _ => True := by
  refine settles_still ?_ leaves
  intro me label choice before after same
  refine ⟨fun honest studentId entry found => ?_, rfl⟩
  exact honest studentId entry ((congrFun same studentId).symm.trans found)

theorem honest_bind {program : Py α} {rest : α → Py β} {post : β → Prop}
    (first : StaysHonest libraries ever since program fun _ => True)
    (second : ∀ value, StaysHonest libraries ever since (rest value) post) :
    StaysHonest libraries ever since (program >>= rest) post :=
  settles_bind (settles_mono first (fun value _ => second value)
    fun _ holds => holds)

theorem honest_weaken {program : Py α} {post : α → Prop}
    (first : StaysHonest libraries ever since program post) :
    StaysHonest libraries ever since program fun _ => True :=
  settles_mono first (fun _ _ => trivial) fun _ holds => holds

theorem honest_silent {program : Py α}
    (first : StaysHonest libraries ever since program fun _ => True) :
    StaysHonest libraries ever since (silent program) fun _ => True :=
  honest_bind first fun _ => settles_pure trivial

/-! ## Writes of students -/

theorem honest_of_lawful {program : Py α}
    (lawful : Lawful (keeping (Honest libraries ever)) program) :
    StaysHonest libraries ever since program fun _ => True :=
  Prog.settles_mono program.run lawful.settles fun answer _ => by
    cases answer <;> trivial

theorem written_cached (call : CallOutcome) (store : Store)
    (flush : Tables → Except SqlError Tables) :
    (written call (store.commit flush) store).cache = store.cache := by
  rcases written_cases call (store.commit flush) store with
    same | ⟨done, next, body, same⟩
  · rw [same]
  · rw [same]
    obtain ⟨db, _, rfl⟩ := Store.commit_ok body
    rfl

theorem honest_same {before after : Store} (same : after.cache = before.cache)
    (honest : Honest libraries ever before) : Honest libraries ever after := by
  intro studentId entry found
  exact honest studentId entry ((congrFun same studentId).symm.trans found)

theorem invalidating_honest :
    Invalidating (keeping (Honest libraries ever)) where
  query _ _ _ honest := honest
  internal _ _ _ honest := honest
  lock _ _ _ _ := ⟨fun honest => honest, fun honest => honest⟩
  release _ _ _ honest := honest
  invalidate _ _ _ _ _ _ kept honest := fun other entry found =>
    honest other entry (kept other entry found)

theorem updating_honest : Updating (keeping (Honest libraries ever)) where
  toInvalidating := invalidating_honest
  update _ choice store _ _ _ :=
    honest_same (written_cached choice.call store _)

theorem deleting_honest : Deleting (keeping (Honest libraries ever)) where
  toInvalidating := invalidating_honest
  deleteStudent _ choice store _ _ :=
    honest_same (written_cached choice.call store _)

theorem removing_cached : Removing (leaving cached) where
  query _ _ _ := rfl
  internal _ _ _ := rfl
  lock _ _ _ _ := ⟨rfl, rfl⟩
  release _ _ _ := rfl
  deleteUser me choice store user dependent := by
    change (written choice.call ((store.releaseLocks me).commit
      (flushDeleteUser user.id dependent)) store).cache = store.cache
    rcases written_cases choice.call ((store.releaseLocks me).commit
      (flushDeleteUser user.id dependent)) store with
      same | ⟨done, next, body, same⟩
    · rw [same]
    · rw [same]
      obtain ⟨db, _, rfl⟩ := Store.commit_ok body
      rfl

/-! ## Reads of students -/

/-- The dumped row of the student, not older than a minute by the clock. -/
def FromCache (libraries : Libraries) (ever since : Moment) (studentId : Id)
    (response : StudentResponse) : Prop :=
  ∃ row stored now, Committed ever studentId row ∧ Ticked ever stored ∧
    Ticked since now ∧ now < stored + 60 ∧
    libraries.loadStudent (libraries.dumpStudent (.ofRow row)) = some response

/-- The row as the user may see it. -/
def FromTable (since : Moment) (studentId : Id) (user : User)
    (response : StudentResponse) : Prop :=
  ∃ row, Committed since studentId row ∧ maySee user row = true ∧
    response = .ofRow row

theorem honest_lookUpStudent (studentId : Id) (caches : Bool) :
    StaysHonest libraries ever since
      (lookUpStudent libraries studentId caches) fun found =>
        ∀ response, found = some response →
          caches = true ∧
            FromCache libraries ever since studentId response := by
  cases caches with
  | false =>
      exact settles_pure fun response found => nomatch found
  | true =>
      intro me choice store _ admitted
      refine ⟨fun honest => honest, rfl, ?_⟩
      obtain ⟨seen, honest⟩ := admitted
      intro response loaded
      obtain ⟨entry, kept, loads⟩ := Option.bind_eq_some_iff.mp loaded
      obtain ⟨found, live⟩ := Option.filter_eq_some_iff.mp kept
      obtain ⟨row, stored, committed, ticked, rfl⟩ :=
        honest studentId entry found
      refine ⟨rfl, row, stored, choice.now, committed, ticked, ⟨_, seen⟩, ?_,
        ?_⟩
      · exact of_decide_eq_true (Bool.and_eq_true_iff.mp live).2
      · split at loads
        · cases loads
        · exact loads

theorem honest_writeCachedStudent
    (within : ∀ now db, since now db → ever now db) {studentId : Id}
    {row : Student} (committed : Committed since studentId row) :
    StaysHonest libraries ever since
      (writeCachedStudent libraries studentId (.ofRow row))
      fun _ => True := by
  intro me choice store _ admitted
  refine ⟨fun honest other entry found => ?_, rfl, trivial⟩
  change (if choice.redisUp then fun other =>
      if other = studentId then
        some ⟨libraries.dumpStudent (.ofRow row), choice.now + 60⟩
      else store.cache other
    else store.cache) other = some entry at found
  split at found
  · simp only at found
    split at found
    · rename_i same
      obtain ⟨tables, ⟨now, queue, seen⟩, isRow⟩ := committed
      cases Option.some.inj found
      rw [same]
      exact ⟨row, choice.now, ⟨tables, ⟨now, queue, within _ _ seen⟩, isRow⟩,
        ⟨_, within _ _ admitted.1⟩, rfl⟩
    · exact honest other entry found
  · exact honest other entry found

theorem honest_readStudent
    (within : ∀ now db, since now db → ever now db) (studentId : Id)
    (user : User) :
    StaysHonest libraries ever since (readStudent libraries studentId user)
      fun response => FromTable since studentId user response ∨
        user.role = .admin ∧
          FromCache libraries ever since studentId response := by
  refine honest_bind (honest_of_leaves leaves_observe) fun redis => ?_
  split
  · exact settles_throw trivial
  refine settles_bind (settles_mono (honest_lookUpStudent studentId _) ?_
    fun _ holds => holds)
  intro found served
  cases found with
  | some response =>
      obtain ⟨caches, fromCache⟩ := served response rfl
      have isAdmin : user.role = .admin :=
        of_decide_eq_true (Bool.and_eq_true_iff.mp caches).1
      exact settles_pure (.inr ⟨isAdmin, fromCache⟩)
  | none =>
      have reads : StaysHonest libraries ever since
          (select (fitsInteger studentId) fun store =>
            (store.db.tables.students.find? studentId).filter (maySee user))
          fun found => ∀ row, found = some row →
            Committed since studentId row ∧ maySee user row = true := by
        refine settles_select honest_idles ?_ fun _ => trivial
        intro choice store admitted row kept
        obtain ⟨found, visible⟩ := Option.filter_eq_some_iff.mp kept
        exact ⟨⟨_, ⟨_, _, admitted.1⟩, found⟩, visible⟩
      refine settles_bind (settles_mono reads ?_ fun _ holds => holds)
      intro found isRow
      cases found with
      | none => exact settles_throw trivial
      | some row =>
          obtain ⟨committed, visible⟩ := isRow row rfl
          have answers : FromTable since studentId user (.ofRow row) :=
            ⟨row, committed, visible, rfl⟩
          simp only [modelValidate_bind]
          split
          · split
            · exact honest_bind (honest_writeCachedStudent within committed)
                fun _ => settles_pure (.inl answers)
            · exact settles_pure (.inl answers)
          · exact settles_throw trivial

end Programs

section Application

variable {libraries : Libraries} {settings : Settings} {ever since : Moment}
  {credentials : Option String} {α β : Type}

/-! ## The application -/

theorem honest_guarded {allowed : List UserRole} {handler : User → Py Unit}
    (handles : ∀ user, StaysHonest libraries ever since (handler user)
      fun _ => True) :
    StaysHonest libraries ever since
      (Security.Auth.requireRoles libraries allowed credentials >>= handler)
      fun _ => True :=
  honest_bind (honest_of_leaves (leaves_requireRoles _ credentials)) handles

theorem honest_student (within : ∀ now db, since now db → ever now db)
    (route : TableRoute StudentCreate StudentUpdate) :
    StaysHonest libraries ever since
      ((studentEndpoints libraries).program libraries credentials route)
      fun _ => True := by
  cases route with
  | create payload =>
      exact honest_guarded fun _ => honest_of_leaves (leaves_silent
        (leaves_createStudent (fun _ _ => rfl)
          cached_onlyStudents.toBesideLocks payload))
  | read studentId =>
      exact honest_guarded fun user => honest_silent
        (honest_weaken (honest_readStudent within studentId user))
  | list skip limit =>
      exact honest_guarded fun user => honest_of_leaves
        (leaves_silent (leaves_readStudents user skip limit))
  | update payload studentId =>
      exact honest_guarded fun _ => honest_silent
        (honest_of_lawful
          (lawful_updateStudent updating_honest payload studentId))
  | delete studentId =>
      exact honest_guarded fun _ => honest_silent
        (honest_of_lawful (lawful_deleteStudent deleting_honest studentId))

theorem users_uncached : Unseen cached (userEndpoints libraries) where
  create payload := nomatch payload
  read _ userId := leaves_silent (leaves_readUser userId)
  list _ skip limit := leaves_silent (leaves_readUsers skip limit)
  update update userId :=
    leaves_silent (leaves_updateUser cached_besideUsers update userId)
  delete userId := leaves_silent (Prog.follows_leaving.mp
    (lawful_deleteUser removing_cached userId))

theorem honest_program (within : ∀ now db, since now db → ever now db)
    (route : Route) :
    StaysHonest libraries ever since
      (route.program libraries settings credentials) fun _ => True := by
  have only := cached_onlyStudents
  cases route with
  | healthCheck => exact honest_of_leaves (leaves_silent leaves_healthCheck)
  | getTranscript studentId =>
      exact honest_guarded fun user => honest_of_leaves
        (leaves_silent (leaves_getTranscript studentId user))
  | exportTranscriptAsync studentId =>
      exact honest_guarded fun user => honest_of_leaves
        (leaves_silent (leaves_exportTranscriptAsync (fun _ _ _ => rfl)
          studentId user))
  | getJobStatus jobId =>
      exact honest_guarded fun user => honest_of_leaves
        (leaves_silent (leaves_getJobStatus jobId user))
  | college route =>
      exact honest_of_leaves ((colleges_unseen only).leaves _ _ route)
  | course route =>
      exact honest_of_leaves ((courses_unseen only).leaves _ _ route)
  | courseOffering route =>
      exact honest_of_leaves ((courseOfferings_unseen only).leaves _ _ route)
  | department route =>
      exact honest_of_leaves ((departments_unseen only).leaves _ _ route)
  | teacher route =>
      exact honest_of_leaves ((teachers_unseen only).leaves _ _ route)
  | student route => exact honest_student within route
  | linkStudentUser studentId userId =>
      exact honest_guarded fun _ => honest_silent
        (honest_of_lawful
          (lawful_linkStudentToUser updating_honest studentId userId))
  | enrollment route =>
      exact honest_of_leaves ((enrollments_unseen only).leaves _ _ route)
  | courseSchedule route =>
      exact honest_of_leaves ((courseSchedules_unseen only).leaves _ _ route)
  | getCurrentUser =>
      exact honest_of_leaves (leaves_silent (leaves_getCurrentUser credentials))
  | updateCurrentUser userUpdate =>
      exact honest_of_leaves (leaves_bind (leaves_getCurrentUser credentials)
        fun user => leaves_silent
          (leaves_updateUserMe cached_besideUsers userUpdate user))
  | getCurrentStudent =>
      exact honest_of_leaves (leaves_bind (leaves_getCurrentUser credentials)
        fun user => leaves_silent (leaves_getCurrentStudentEndpoint user))
  | user route => exact honest_of_leaves (users_uncached.leaves _ _ route)
  | registerUser payload =>
      exact honest_of_leaves (leaves_bind leaves_limited fun _ =>
        leaves_silent (leaves_registerUser only.toBesideLocks
          (fun _ _ _ _ => rfl) payload))
  | loginUser userLogin =>
      exact honest_of_leaves (leaves_bind leaves_limited fun _ =>
        leaves_silent (leaves_loginUser userLogin))

theorem honest_session {program : Py α} {post : α → Prop}
    (first : StaysHonest libraries ever since program post) :
    StaysHonest libraries ever since (getDb program) post :=
  settles_getDb (honest_of_leaves
    (leaves_rollback cached_onlyStudents.toBesideLocks)) first

theorem settles_answers {program : Py α} {post : α → Prop}
    (first : StaysHonest libraries ever since program post) :
    program.run.Settles (honestScope libraries ever since) fun _ => True :=
  Prog.settles_mono program.run first fun _ _ => trivial

theorem settles_process (within : ∀ now db, since now db → ever now db)
    {program : Prog university (Except Exc Unit)}
    (process : Process libraries settings program) :
    program.Settles (honestScope libraries ever since) fun _ => True := by
  cases process with
  | request credentials route =>
      exact settles_answers (honest_session (honest_program within route))
  | reconcileOnce =>
      exact settles_answers (honest_of_leaves
        (leaves_silent (leaves_reconcileOnce cached_beside.toBesideJobs)))
  | runOnce =>
      exact settles_answers (honest_of_leaves
        (leaves_silent (leaves_runOnce cached_beside settings)))
  | createAdmin environment arguments =>
      exact settles_answers (honest_of_leaves (leaves_silent
        (leaves_createAdmin (fun _ _ => rfl)
          cached_onlyStudents.toBesideLocks environment arguments)))

theorem settles_heartbeat (child : Child) :
    (Accounts.Service.heartbeat settings child).run.Settles
      (honestScope libraries ever since) fun _ => True := by
  cases child with
  | heartbeat claim execution =>
      exact settles_answers (honest_of_leaves
        (leaves_heartbeatLoop cached_beside.toBesideJobs settings claim execution))

end Application

end SystemUni.Students.Entries
