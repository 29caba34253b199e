import SystemUni.Students.Laws
import SystemUni.Students.Service

/-!
# Links between students and users

The checks of `link_student_to_user` run on reads that may be stale by its
commit.  The version of the student row, the unique index on `user_id` and the
foreign key to `users` have the last word.
-/

set_option autoImplicit false

namespace SystemUni.Students.Links

open Interleaving Relational
open SystemUni.Runtime.Errors
open SystemUni.Runtime.External
open SystemUni.Runtime.Statements
open SystemUni.Runtime.Rules
open SystemUni.Models.Rows
open SystemUni.Models.Changes
open SystemUni.Models.Jobs
open SystemUni.Models.Schema
open SystemUni.Routers.Reports
open SystemUni.Workers.Tasks
open SystemUni.Workers.Frame
open SystemUni.Crud.User
open SystemUni.Crud.Deletion
open SystemUni.Crud.Student
open SystemUni.Accounts.Discipline
open SystemUni.Accounts.Frame
open SystemUni.Accounts.Service
open SystemUni.Students.Discipline
open SystemUni.Students.Laws
open SystemUni.Students.Requests
open SystemUni.Students.Service

/-! ## What the commits of this table are -/

/-- Statements named so commit just this change of a student row. -/
def updatesAsNamed : Law university := fun _ label choice before after =>
  match label with
  | .student (.updateStudent read change _) =>
      after = written choice.call (before.commit (flushStudent read change))
        before
  | _ => True

/-- Statements named so change students in deleting just this user. -/
def deletesAsNamed : Law university := fun me label choice before after =>
  match label with
  | .account (.deleteUser read dependent) =>
      students after = students before ∨ after = written choice.call
        ((before.releaseLocks me).commit (flushDeleteUser read.id dependent))
        before
  | _ => True

theorem updating_updatesAsNamed : Updating updatesAsNamed where
  query _ _ _ := trivial
  internal _ _ _ := trivial
  lock _ _ _ _ := ⟨trivial, trivial⟩
  release _ _ _ := trivial
  invalidate _ _ _ _ _ _ _ := trivial
  update _ _ _ _ _ _ := rfl

theorem invalidating_deletesAsNamed : Invalidating deletesAsNamed where
  query _ _ _ := trivial
  internal _ _ _ := trivial
  lock _ _ _ _ := ⟨trivial, trivial⟩
  release _ _ _ := trivial
  invalidate _ _ _ _ _ _ _ := trivial

theorem updating_deletesAsNamed : Updating deletesAsNamed where
  toInvalidating := invalidating_deletesAsNamed
  update _ _ _ _ _ _ := trivial

theorem deleting_deletesAsNamed : Deleting deletesAsNamed where
  toInvalidating := invalidating_deletesAsNamed
  deleteStudent _ _ _ _ _ := trivial

theorem removing_deletesAsNamed : Removing deletesAsNamed where
  toLocking := invalidating_deletesAsNamed.toLocking
  deleteUser _ _ _ _ _ := .inr rfl

section Lawful

variable {α : Type} {law : Law university}

theorem lawful_serve (locking : Locking law) {request : Py α}
    (lawful : Lawful law request) : Lawful law (serve request) :=
  lawful_getDb locking (lawful_bind lawful fun _ => lawful_pure)

theorem lawful_answerDone {request : Py α} (lawful : Lawful law request) :
    Lawful law (answerDone request) :=
  lawful_bind lawful fun _ => lawful_pure

theorem lawful_of_leaves {program : Py α}
    (leaves : Leaves studentView program) :
    Lawful deletesAsNamed program := by
  refine (Prog.follows_leaving.mpr leaves).weaken ?_
  intro me label choice before after same
  unfold deletesAsNamed
  split
  · exact .inl (congrArg Prod.fst same)
  · trivial

theorem lawful_request {libraries : Libraries} {program : Py StudentAnswer}
    (request : StudentRequest libraries program) :
    Lawful deletesAsNamed program := by
  have locking := invalidating_deletesAsNamed.toLocking
  cases request with
  | readStudent studentId user =>
      exact lawful_bind (lawful_observe locking.toReading) fun _ =>
        lawful_bind (lawful_getDb locking (lawful_readStudent locking.toReading
          (fun _ _ _ _ _ _ => trivial) libraries studentId user))
          fun _ => lawful_pure
  | updateStudent studentUpdate studentId =>
      exact lawful_answerDone (lawful_serve locking (lawful_updateStudent
        updating_deletesAsNamed studentUpdate studentId))
  | linkStudentToUser studentId userId =>
      exact lawful_answerDone (lawful_serve locking (lawful_linkStudentToUser
        updating_deletesAsNamed studentId userId))
  | deleteStudent studentId =>
      exact lawful_answerDone (lawful_serve locking
        (lawful_deleteStudent deleting_deletesAsNamed studentId))
  | deleteUser userId =>
      exact lawful_answerDone (lawful_serve locking
        (lawful_deleteUser removing_deletesAsNamed userId))
  | other program leaves =>
      exact lawful_answerDone (lawful_serve locking (lawful_of_leaves leaves))

theorem lawful_heartbeat (settings : Settings) (child : Child) :
    Lawful deletesAsNamed (heartbeat settings child) := by
  cases child with
  | heartbeat claim execution =>
      exact lawful_of_leaves
        (leaves_heartbeatLoop studentView_besideQueue.toBesideJobs settings claim execution)

end Lawful

def linkDiscipline (libraries : Libraries) : Discipline university :=
  (studentDiscipline libraries False).withLaw deletesAsNamed

theorem link_obeys {libraries : Libraries} (settings : Settings) :
    Obeys (studentSystem libraries settings) (linkDiscipline libraries)
      (soundAnswer False) where
  starts me store program _ request := by
    intro later invariant _
    exact safe_withLaw _ _ me program (lawful_request request) _ later
      (runs_request nofun request invariant)
  children me child store _ := by
    intro later invariant _
    exact safe_withLaw _ _ me _
      (lawful_answerDone (lawful_heartbeat settings child)) _ later
      (runs_heartbeats invariant)

/-! ## Links persist -/

/-- The student's link to the user has ended with one of them. -/
structure Ended (store : Store) (studentId userId : Id) : Prop where
  unlinked : linkedUser store.db.tables studentId = none
  deleted : (students store).find? studentId = none ∨
    (users store).find? userId = none

theorem linkedUser_some {tables : Tables} {studentId userId : Id}
    (linked : linkedUser tables studentId = some userId) :
    ∃ row, tables.students.find? studentId = some row ∧
      row.userId = some userId := Option.bind_eq_some_iff.mp linked

theorem linkedUser_of_found {tables : Tables} {studentId : Id} {row : Student}
    (found : tables.students.find? studentId = some row) :
    linkedUser tables studentId = row.userId := by
  simp [linkedUser, found]

/-- A committed deletion of a user leaves no row of it. -/
theorem written_deleteUser {store : Store} {call : CallOutcome} {me : Nat}
    {userId : Id} {dependent : Option Student} :
    written call ((store.releaseLocks me).commit
        (flushDeleteUser userId dependent)) store = store ∨
      (users (written call ((store.releaseLocks me).commit
        (flushDeleteUser userId dependent)) store)).find? userId = none := by
  rcases written_cases call ((store.releaseLocks me).commit
    (flushDeleteUser userId dependent)) store with
    same | ⟨done, next, committed, same⟩
  · exact .inl same
  · right
    rw [same]
    obtain ⟨db, flushed, rfl⟩ := Store.commit_ok committed
    obtain ⟨unlinked, _, becomes⟩ := flushDeleteUser_ok flushed
    change db.tables.users.find? userId = none
    rw [becomes, Table.find?_erase, if_pos rfl]

section Steps

variable {libraries : Libraries} {settings : Settings} {initial : Store}
  {config : Config university (Except Exc StudentAnswer)}

theorem link_disciplined
    (reachable : Reachable (studentSystem libraries settings) anything initial
      config) :
    Disciplined (linkDiscipline libraries) (soundAnswer False) config :=
  (link_obeys settings).sound nofun (reachable.weaken fun _ _ _ _ => nofun)

/-- No statement replaces a link: it stays, or it ends with the student or
with the user. -/
theorem link_step
    (reachable : Reachable (studentSystem libraries settings) anything initial
      config)
    {next : Config university (Except Exc StudentAnswer)} {thread : Nat}
    {label : Label} {choice : Choice}
    (transition : Transition (studentSystem libraries settings) config
      (.act thread label choice) next) {studentId userId : Id}
    (linked : linkedUser config.store.db.tables studentId = some userId) :
    linkedUser next.store.db.tables studentId = some userId ∨
      Ended next.store studentId userId := by
  obtain ⟨row, found, toUser⟩ := linkedUser_some linked
  obtain ⟨effect, named⟩ :=
    ((link_disciplined reachable).guaranteed transition nofun).2
  have step := effect.1.row studentId
  rw [found] at step
  generalize becomes : (students next.store).find? studentId = after at step
  cases step with
  | kept =>
      left
      rw [linkedUser_of_found becomes]
      exact toUser
  | written read change computed =>
      have after := linkedUser_of_found becomes
      cases computed with
      | updateStudent studentUpdate agrees => exact .inl (after.trans toUser)
      | linkStudentToUser linkedId unlinked =>
          rw [unlinked] at toUser
          cases toUser
      | deleteUser user linkedTo =>
          right
          have same : user.id = userId :=
            Option.some.inj (linkedTo.symm.trans toUser)
          refine ⟨after, .inr ?_⟩
          rw [← same]
          have unlinks : students next.store ≠ students config.store := by
            intro unchanged
            rw [unchanged, found] at becomes
            have still : row.userId = none := by
              rw [Option.some.inj becomes]
              rfl
            rw [still] at toUser
            cases toUser
          have named := named.resolve_left unlinks
          rcases @written_deleteUser config.store choice.call thread user.id
            (some row) with unchanged | deleted
          · rw [← named] at unchanged
            have still : linkedUser next.store.db.tables studentId = some userId := by
              rw [unchanged]
              exact linked
            rw [after] at still
            cases still
          · rw [← named] at deleted
            exact deleted
  | deleted read deletes =>
      right
      refine ⟨?_, .inl becomes⟩
      rw [linkedUser]
      change ((students next.store).find? studentId).bind _ = none
      rw [becomes]
      rfl

/-- Between the two configurations a statement ends the link. -/
def LinkEnds (libraries : Libraries) (settings : Settings)
    (first last : Config university (Except Exc StudentAnswer))
    (studentId userId : Id) : Prop :=
  ∃ middle next thread label choice,
    Run (studentSystem libraries settings) anything first middle ∧
    Transition (studentSystem libraries settings) middle
      (.act thread label choice) next ∧
    linkedUser middle.store.db.tables studentId = some userId ∧
    Ended next.store studentId userId ∧
    Run (studentSystem libraries settings) anything next last

theorem link_run
    (reachable : Reachable (studentSystem libraries settings) anything initial
      config)
    {last : Config university (Except Exc StudentAnswer)}
    (run : Run (studentSystem libraries settings) anything config last)
    {studentId userId : Id}
    (linked : linkedUser config.store.db.tables studentId = some userId) :
    linkedUser last.store.db.tables studentId = some userId ∨
      LinkEnds libraries settings config last studentId userId := by
  induction run with
  | refl => exact .inl linked
  | @step middle last event before transition admitted inductionHypothesis =>
      rcases inductionHypothesis with still |
        ⟨atEnd, next, thread, label, choice, run, acts, was, ended, after⟩
      · have happened := transition
        cases transition with
        | arrive program allowed => exact .inl still
        | fork thread child next scheduled => exact .inl still
        | act thread statement next choice scheduled ready =>
            rcases link_step (reachable.trans before) happened still with
              kept | ended
            · exact .inl kept
            · exact .inr ⟨middle, _, thread, statement.label, choice, before,
                happened, still, ended, .refl _⟩
      · exact .inr ⟨atEnd, next, thread, label, choice, run, acts, was, ended,
          .step after transition admitted⟩

/-- Each user has at most one student, and each link leads to a user. -/
theorem links_one_to_one (database : Database) :
    (∀ first second userId,
      linkedUser database.tables first = some userId →
      linkedUser database.tables second = some userId → first = second) ∧
    ∀ studentId userId, linkedUser database.tables studentId = some userId →
      ∃ user, database.tables.users.find? userId = some user := by
  obtain ⟨_, unique, _, references⟩ := database.admissible.student
  constructor
  · intro first second userId isFirst isSecond
    obtain ⟨row, found, toUser⟩ := linkedUser_some isFirst
    obtain ⟨other, otherFound, otherToUser⟩ := linkedUser_some isSecond
    have same := Table.Unique.eq_of_value unique (Table.mem_of_find? found)
      (Table.mem_of_find? otherFound) toUser otherToUser
    calc
      first = row.id := (Table.key_of_find? found).symm
      _ = other.id := by rw [same]
      _ = second := Table.key_of_find? otherFound
  · intro studentId userId linked
    obtain ⟨row, found, toUser⟩ := linkedUser_some linked
    obtain ⟨user, member, rfl⟩ :=
      references row (Table.mem_of_find? found) userId toUser
    exact ⟨user, Table.find?_of_mem member⟩

end Steps

/-! ## A link request that returns has committed its link -/

/-- The statement is the commit of this link, and it links a student who is
linked to nobody. -/
def commitsLink (studentId userId : Id) : Condition university :=
  fun label choice store => ∃ read db,
    label = .student (.updateStudent read (linkChange userId) none) ∧
    (students store).find? studentId = some read ∧ read.userId = none ∧
    (∀ kind text, choice.call ≠ .failed kind text) ∧
    store.commit (flushStudent read (linkChange userId)) =
      .ok ((), store.setTables db)

section Avoiding

variable {libraries : Libraries} {event : Condition university} {me : Nat}
  {store : Store} {α : Type}

theorem call_cases (call : CallOutcome) (result : Except Exc (α × Store))
    (store : Store) :
    (written call result store = store ∧
        ∃ exc, answered call result = .error exc) ∨
      ∃ value next, result = .ok (value, next) ∧
        ∀ kind text, call ≠ .failed kind text := by
  cases result with
  | error exc =>
      left
      cases call with
      | done => exact ⟨rfl, exc, rfl⟩
      | failed kind text => exact ⟨rfl, .sql kind text, rfl⟩
      | lost kind text => exact ⟨rfl, .sql kind text, rfl⟩
  | ok pair =>
      cases call with
      | failed kind text => exact .inl ⟨rfl, .sql kind text, rfl⟩
      | done => exact .inr ⟨pair.1, pair.2, rfl, nofun⟩
      | lost kind text => exact .inr ⟨pair.1, pair.2, rfl, nofun⟩

theorem runs_avoided {D : Discipline university} (still : Stutters D)
    {label : Label} {body : Choice → Store → Except Exc (α × Store)}
    {post : α → Store → Prop} {fail : Exc → Store → Prop}
    (invariant : D.inv store)
    (raises : ∀ exc later, Later D me store later → fail exc later)
    (isEvent : ∀ choice value next, body choice store = .ok (value, next) →
      (∀ kind text, choice.call ≠ .failed kind text) →
      event label choice store) :
    Runs (D.avoiding event) me (transaction label body) post fail store := by
  intro choice _ ok
  rcases call_cases choice.call (body choice store) store with
    ⟨same, exc, raised⟩ | ⟨value, next, result, committed⟩
  · change D.inv (written choice.call (body choice store) store) ∧
      D.guar me label choice store
        (written choice.call (body choice store) store) ∧
      ∀ later, D.inv later →
        D.rely me (written choice.call (body choice store) store) later →
        outcome (S := university) post fail
          (answered choice.call (body choice store)) later
    rw [same, raised]
    exact ⟨invariant, still me label choice store invariant,
      fun later laterInvariant rely => raises exc later ⟨laterInvariant, rely⟩⟩
  · exact absurd (isEvent choice value next result committed) ok.2

variable {studentId userId : Id}

/-- A link request that never commits its link does not return. -/
theorem runs_linkAvoided
    (invariant : (studentDiscipline libraries False).inv store) :
    Runs ((studentDiscipline libraries False).avoiding
        (commitsLink studentId userId)) me
      (linkStudentToUser studentId userId) (fun _ _ => False)
      (Kept libraries False) store := by
  have still : Stutters ((studentDiscipline libraries False).avoiding
      (commitsLink studentId userId)) :=
    student_stutters libraries False
  refine runs_bind (runs_query still invariant
    (fun _ _ follows => follows.inv) ?_)
  intro loaded follows
  cases row : (students store).find? studentId with
  | none => exact runs_throw _ follows.inv
  | some student =>
      have known : Known student loaded :=
        (Known.of_found row).forward follows.rely
      have key : student.id = studentId := Table.key_of_find? row
      refine runs_bind (runs_query still follows.inv
        (fun _ _ further => further.inv) ?_)
      intro afterUser readUser
      cases loaded.db.tables.users.find? userId with
      | none => exact runs_throw _ readUser.inv
      | some user =>
          simp only
          split
          · exact runs_throw _ readUser.inv
          rename_i free
          have unlinked : student.userId = none := by simpa using free
          refine runs_bind (runs_query still readUser.inv
            (fun _ _ further => further.inv) ?_)
          intro afterLinked readLinked
          split
          · exact runs_throw _ readLinked.inv
          have stillKnown : Known student afterLinked :=
            known.forward (readUser.rely.trans readLinked.rely)
          refine runs_bind (runs_tryCatch (runs_bind (runs_avoided
            (student_stutters libraries False) readLinked.inv ?_ ?_)))
          · intro exc later further
            exact safe_avoiding _ _ me _ _ later
              (runs_handled handles_linkErrors exc further.inv)
          · intro choice done next committed call
            obtain ⟨db, flushed, same⟩ := Store.commit_ok committed
            have current : (students afterLinked).find? studentId =
                some student := by
              rcases flushStudent_ok flushed with
                ⟨empty, _⟩ | ⟨_, current, found, version, _⟩
              · cases empty
              · rw [← key]
                exact stillKnown.current found version
            rw [same] at committed
            exact ⟨student, db, rfl, current, unlinked, call, committed⟩

theorem runs_serveLinkAvoided
    (invariant : (studentDiscipline libraries False).inv store) :
    Runs ((studentDiscipline libraries False).avoiding
        (commitsLink studentId userId)) me
      (answerDone (serve (linkStudentToUser studentId userId)))
      (fun _ _ => False) (fun _ _ => True) store := by
  have discards : Runs ((studentDiscipline libraries False).avoiding
        (commitsLink studentId userId)) me
      (do
        let _ ← linkStudentToUser studentId userId
        return ())
      (fun _ later =>
        (studentDiscipline libraries False).inv later ∧ False)
      (Kept libraries False) store :=
    runs_bind (runs_mono (runs_linkAvoided invariant)
      (fun _ _ absurd => absurd.elim) fun _ _ kept => kept)
  refine runs_bind (runs_mono
    (runs_session (fun _ => False) (fun _ kept => ?_) discards)
    (fun _ _ kept => kept.2.elim) fun _ _ _ => trivial)
  exact safe_avoiding _ _ me _ _ _ (keeps_rollback kept)

end Avoiding

/-- A statement links a student who is linked to nobody to a user nobody is
linked to. -/
structure LinksUnlinked (before after : Tables) (studentId userId : Id) :
    Prop where
  student : ∃ row, before.students.find? studentId = some row ∧
    row.userId = none
  user : ∀ other, linkedUser before other ≠ some userId
  linked : linkedUser after studentId = some userId

theorem linkedUser_linked {tables : Tables} {read : Student} {userId : Id}
    (current : tables.students.find? read.id = some read)
    {after : Tables} (written : after = { tables with
      students := tables.students.updateWhere
        (fun row => decide (row.id = read.id))
        ((linkChange userId).apply read.versionId)
        (StudentChange.apply_id _ _) }) :
    linkedUser after read.id = some userId ∧
      ∀ other, other ≠ read.id →
        linkedUser after other = linkedUser tables other := by
  subst written
  constructor
  · simp [linkedUser, Table.find?_updateWhere, current, StudentChange.apply,
      linkChange]
  · intro other different
    unfold linkedUser
    rw [Table.find?_updateWhere]
    cases found : tables.students.find? other with
    | none => rfl
    | some row =>
        have key : row.id = other := Table.key_of_find? found
        simp [key, different]

theorem links_of_commit {before after : Store} {thread : Nat} {label : Label}
    {choice : Choice} {studentId userId : Id}
    (commits : commitsLink studentId userId label choice before)
    (lawful : updatesAsNamed thread label choice before after) :
    LinksUnlinked before.db.tables after.db.tables studentId userId := by
  obtain ⟨read, db, rfl, current, unlinked, call, committed⟩ := commits
  have named : after = written choice.call
      (before.commit (flushStudent read (linkChange userId))) before := lawful
  have becomes : after = before.setTables db := by
    rw [named, committed]
    cases outcome : choice.call with
    | done => rfl
    | lost kind text => rfl
    | failed kind text => exact absurd outcome (call kind text)
  have tables : after.db = db := by rw [becomes]; rfl
  have key : read.id = studentId := Table.key_of_find? current
  obtain ⟨stored, flushed, same⟩ := Store.commit_ok committed
  have isDb : db = stored := congrArg Store.db same
  rw [← isDb] at flushed
  rcases flushStudent_ok flushed with
    ⟨empty, _⟩ | ⟨_, row, _, _, tablesAfter⟩
  · cases empty
  subst key
  obtain ⟨linked, others⟩ := linkedUser_linked current tablesAfter
  have linkedAfter : linkedUser after.db.tables read.id = some userId := by
    rw [tables]
    exact linked
  refine ⟨⟨read, current, unlinked⟩, ?_, linkedAfter⟩
  intro other taken
  by_cases different : other = read.id
  · subst different
    rw [linkedUser_of_found current, unlinked] at taken
    cases taken
  · have stillTaken : linkedUser after.db.tables other = some userId := by
      rw [tables, others other different]
      exact taken
    exact different ((links_one_to_one after.db).1 other read.id userId
      stillTaken linkedAfter)

/-! ## The relation -/

/-- Links are one to one and lead to existing users; a link stays until its
student or its user is deleted; no statement replaces a link; a link request
that returns has committed its link from an unlinked state of both sides. -/
theorem links_stable_one_to_one (libraries : Libraries) (settings : Settings)
    (initial : Store) (config : Config university (Except Exc StudentAnswer))
    (reachable : Reachable (studentSystem libraries settings) anything initial
      config) :
    (∀ first second userId,
      linkedUser config.store.db.tables first = some userId →
      linkedUser config.store.db.tables second = some userId →
      first = second) ∧
    (∀ studentId userId,
      linkedUser config.store.db.tables studentId = some userId →
      ∃ user, config.store.db.tables.users.find? userId = some user) ∧
    (∀ studentId userId last,
      linkedUser config.store.db.tables studentId = some userId →
      Run (studentSystem libraries settings) anything config last →
      linkedUser last.store.db.tables studentId = some userId ∨
        LinkEnds libraries settings config last studentId userId) ∧
    (∀ studentId userId otherId next thread label choice,
      linkedUser config.store.db.tables studentId = some userId →
      Transition (studentSystem libraries settings) config
        (.act thread label choice) next →
      linkedUser next.store.db.tables studentId = some otherId →
      otherId = userId) ∧
    ∀ studentId userId last thread,
      config.threads[thread]? =
        some (answerDone (serve (linkStudentToUser studentId userId))) →
      Run (studentSystem libraries settings) anything config last →
      last.threads[thread]? = some (.ret (.ok .done)) →
      ∃ middle next label choice,
        Run (studentSystem libraries settings) anything config middle ∧
        Transition (studentSystem libraries settings) middle
          (.act thread label choice) next ∧
        LinksUnlinked middle.store.db.tables next.store.db.tables studentId
          userId ∧
        Run (studentSystem libraries settings) anything next last := by
  obtain ⟨oneToOne, exist⟩ := links_one_to_one config.store.db
  refine ⟨oneToOne, exist, fun studentId userId last linked run =>
    link_run reachable run linked, ?_, ?_⟩
  · intro studentId userId otherId next thread label choice linked transition
      replaced
    rcases link_step reachable transition linked with kept | ended
    · exact Option.some.inj (replaced.symm.trans kept)
    · rw [ended.unlinked] at replaced
      cases replaced
  · intro studentId userId last thread starts run returned
    have linking : StudentRequest libraries
        (answerDone (serve (linkStudentToUser studentId userId))) :=
      .linkStudentToUser studentId userId
    have safe : SafeFrom ((linkDiscipline libraries).avoiding
          (commitsLink studentId userId)) thread
        (answerDone (serve (linkStudentToUser studentId userId)))
        (outcome (S := university) (fun _ _ => False) fun _ _ => True)
        config.store := by
      intro later invariant _
      exact safe_withLaw ((studentDiscipline libraries False).avoiding
          (commitsLink studentId userId)) deletesAsNamed thread _
        (lawful_request linking) _ later
        (runs_serveLinkAvoided invariant)
    have named : Lawful updatesAsNamed
        (answerDone (serve (linkStudentToUser studentId userId))) :=
      lawful_answerDone (lawful_serve updating_updatesAsNamed.toLocking
        (lawful_linkStudentToUser updating_updatesAsNamed studentId userId))
    have disciplined := link_disciplined reachable
    rcases (link_obeys settings).witnessed (commitsLink studentId userId)
        disciplined (run.weaken fun _ _ _ _ => nofun) starts safe with
      ⟨middle, next, label, choice, before, acts, commits, _, after⟩ |
        ⟨rest, here, restSafe⟩
    · have earlier := before.anything
      exact ⟨middle, next, label, choice, earlier, acts,
        links_of_commit commits (named.obeyed before starts acts),
        after.anything⟩
    · rw [returned] at here
      cases Option.some.inj here
      exact (restSafe.now ((link_obeys settings).run disciplined
        (run.weaken fun _ _ _ _ => nofun)).inv).elim

/-! ## A student is linked -/

def linking : Config university (Except Exc StudentAnswer) where
  store := sampleStore
  threads := [answerDone (serve (linkStudentToUser 1 2))]

def linked : Config university (Except Exc StudentAnswer) :=
  linking.played (studentSystem sampleLibraries .default) accept
    (plain (List.replicate 8 0))

theorem linking_reachable :
    Reachable (studentSystem sampleLibraries .default) anything sampleStore
      linking := by
  refine arrivals_run _ _ _ linking.threads ?_
  intro program member
  cases List.mem_singleton.mp member
  exact .linkStudentToUser 1 2

theorem linked_run :
    Run (studentSystem sampleLibraries .default) anything linking linked :=
  Config.played_run (studentSystem sampleLibraries .default) accept anything
    (fun _ _ _ _ => trivial) (plain (List.replicate 8 0)) linking
    (by decide +kernel)

theorem links_stable_one_to_one_linked :
    ∃ middle next label choice,
      Run (studentSystem sampleLibraries .default) anything linking middle ∧
      Transition (studentSystem sampleLibraries .default) middle
        (.act 0 label choice) next ∧
      LinksUnlinked middle.store.db.tables next.store.db.tables 1 2 ∧
      Run (studentSystem sampleLibraries .default) anything next linked := by
  have answered : linked.threads[0]?.bind answerOf = some .done := by
    decide +kernel
  obtain ⟨program, found, answers⟩ := Option.bind_eq_some_iff.mp answered
  rw [answerOf_some answers] at found
  exact (links_stable_one_to_one sampleLibraries .default sampleStore linking
    linking_reachable).2.2.2.2 1 2 linked 0 rfl linked_run found

end SystemUni.Students.Links
