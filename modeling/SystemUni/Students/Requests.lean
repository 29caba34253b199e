import SystemUni.Accounts.Frame
import SystemUni.Students.Discipline

/-!
# Every student request keeps the discipline

Between its read and its commit a request knows its row only up to the
version: `Known` is what survives the others, and `Known.current` is what makes
a write that the database accepts a write of the row that was read.
-/

set_option autoImplicit false

namespace SystemUni.Students.Requests

open Interleaving Relational
open SystemUni.Runtime.Errors
open SystemUni.Runtime.External
open SystemUni.Runtime.Statements
open SystemUni.Runtime.Rules
open SystemUni.Models.Rows
open SystemUni.Models.Changes
open SystemUni.Models.Schema
open SystemUni.Crud.User
open SystemUni.Crud.Deletion
open SystemUni.Crud.Student
open SystemUni.Accounts.Frame
open SystemUni.Students.Discipline

theorem studentView_beside : BesideUsers studentView where
  lock _ _ _ := rfl
  release _ _ := rfl
  saved store userId change db flushed := by
    change (db.tables.students, store.cache, store.returned) = _
    rcases flushUser_ok flushed with ⟨_, same⟩ | ⟨_, row, _, same⟩
    · rw [same]
      rfl
    · rw [same]
      rfl

section Specifications

variable {libraries : Libraries} {guarded : Prop} {me : Nat} {store : Store}
  {α : Type}

abbrev Kept (libraries : Libraries) (guarded : Prop) {α : Type} (_ : α)
    (later : Store) : Prop :=
  (studentDiscipline libraries guarded).inv later

theorem runs_beside {program : Py α} {post : α → Store → Prop}
    {fail : Exc → Store → Prop} (leaves : Leaves studentView program)
    (invariant : (studentDiscipline libraries guarded).inv store)
    (raises : ∀ exc later,
      Later (studentDiscipline libraries guarded) me store later →
      fail exc later)
    (returns : ∀ value later,
      Later (studentDiscipline libraries guarded) me store later →
      post value later) :
    Runs (studentDiscipline libraries guarded) me program post fail store := by
  refine safe_of_keeps (studentDiscipline libraries guarded) me studentView ?_
    program.run leaves _ store invariant ?_
  · intro label choice before after same kept
    have sameTable : students after = students before :=
      congrArg Prod.fst same
    have sameCache : after.cache = before.cache :=
      congrArg (fun view => view.2.1) same
    have sameMarks : after.returned = before.returned :=
      congrArg (fun view => view.2.2) same
    have effect : StudentEffect (students before) label (students after) := by
      rw [sameTable]
      exact .unchanged
    exact table_step me choice after kept effect sameCache sameMarks
  · intro result later follows
    cases result with
    | ok value => exact returns value later follows
    | error exc => exact raises exc later follows

/-! ## Commits -/

theorem find?_written {table : Table Student.id} {read row : Student}
    {change : StudentChange}
    (found : (table.updateWhere (fun row => decide (row.id = read.id))
      (change.apply read.versionId) (change.apply_id read.versionId)).find?
        read.id = some row) :
    row.versionId = read.versionId + 1 := by
  rw [Table.find?_updateWhere] at found
  cases old : table.find? read.id with
  | none =>
      rw [old] at found
      cases found
  | some before =>
      have key : before.id = read.id := Table.key_of_find? old
      rw [old] at found
      simp only [Option.map_some, key, decide_true, if_true,
        Option.some.injEq] at found
      rw [← found]
      rfl

/-- An accepted write applies to the row that was read. -/
theorem flushStudent_effect {student : Student} {change : StudentChange}
    {tables : Tables} {label : Label} (known : Known student store)
    (flushed : flushStudent student change store.db.tables = .ok tables)
    (computed : StudentWrite student label change) :
    StudentEffect (students store) label tables.students := by
  rcases flushStudent_ok flushed with
    ⟨_, same⟩ | ⟨_, row, found, version, same⟩
  · rw [same]
    exact .unchanged
  · rw [same]
    exact .written student change computed (known.current found version)

theorem flushStudent_settled {student : Student} {change : StudentChange}
    {db : Database} (known : Known student store)
    (flushed : flushStudent student change store.db.tables = .ok db.tables) :
    Settled student.id (.version (change.versionAfter student.versionId))
      (store.setTables db) := by
  intro row found
  change db.tables.students.find? student.id = some row at found
  rw [allows_version, StudentChange.versionAfter]
  rcases flushStudent_ok flushed with
    ⟨empty, same⟩ | ⟨dirtied, old, _, _, same⟩
  · rw [same] at found
    rw [if_pos empty]
    exact (known row found).1
  · rw [same] at found
    rw [if_neg dirtied, find?_written found]

theorem runs_commitStudent {student : Student} {change : StudentChange}
    {carried : Option Nat} {post : Unit → Store → Prop}
    {fail : Exc → Store → Prop}
    (invariant : (studentDiscipline libraries guarded).inv store)
    (known : Known student store)
    (computed : StudentWrite student
      (.student (.updateStudent student change carried)) change)
    (raises : ∀ exc later,
      Later (studentDiscipline libraries guarded) me store later →
      fail exc later)
    (returns : ∀ later,
      Later (studentDiscipline libraries guarded) me store later →
      Settled student.id (.version (change.versionAfter student.versionId))
        later → post () later) :
    Runs (studentDiscipline libraries guarded) me
      (commitStudent student change carried) post fail store := by
  refine runs_transaction (student_stutters libraries guarded) invariant
    raises ?_
  intro choice done next ok body
  obtain ⟨db, flushed, rfl⟩ := Store.commit_ok body
  have effect : StudentEffect (students store)
      (.student (.updateStudent student change carried)) db.tables.students :=
    flushStudent_effect known flushed computed
  obtain ⟨kept, guaranteed, forward⟩ :=
    table_step me choice (store.setTables db)
      invariant effect rfl rfl
  refine ⟨kept, guaranteed, ?_⟩
  intro later follows
  have whole : Later (studentDiscipline libraries guarded) me store later :=
    ⟨follows.inv, forward.trans follows.rely⟩
  exact ⟨returns later whole
    ((flushStudent_settled known flushed).forward follows.rely),
    fun exc => raises exc later whole⟩

theorem runs_commitDeleteStudent {student : Student}
    {enrollments : List Enrollment} {post : Unit → Store → Prop}
    {fail : Exc → Store → Prop}
    (invariant : (studentDiscipline libraries guarded).inv store)
    (known : Known student store)
    (raises : ∀ exc later,
      Later (studentDiscipline libraries guarded) me store later →
      fail exc later)
    (returns : ∀ later,
      Later (studentDiscipline libraries guarded) me store later →
      Settled student.id .deleted later → post () later) :
    Runs (studentDiscipline libraries guarded) me
      (transaction (.student (.deleteStudent student)) fun _ store =>
        store.commit (flushDeleteStudent student enrollments))
      post fail store := by
  refine runs_transaction (student_stutters libraries guarded) invariant
    raises ?_
  intro choice done next ok body
  obtain ⟨db, flushed, rfl⟩ := Store.commit_ok body
  obtain ⟨_, row, found, version, same⟩ := flushDeleteStudent_ok flushed
  have effect : StudentEffect (students store)
      (.student (.deleteStudent student)) db.tables.students := by
    rw [same]
    exact .deleted student rfl (known.current found version)
  obtain ⟨kept, guaranteed, forward⟩ :=
    table_step me choice (store.setTables db)
      invariant effect rfl rfl
  have gone : Settled student.id .deleted (store.setTables db) := by
    intro row rowFound
    change db.tables.students.find? student.id = some row at rowFound
    rw [same, Table.find?_erase, if_pos rfl] at rowFound
    cases rowFound
  refine ⟨kept, guaranteed, ?_⟩
  intro later follows
  have whole : Later (studentDiscipline libraries guarded) me store later :=
    ⟨follows.inv, forward.trans follows.rely⟩
  exact ⟨returns later whole (gone.forward follows.rely),
    fun exc => raises exc later whole⟩

/-- The student linked to a deleted user is written like any other. -/
theorem runs_commitDeleteUser {read : User} {dependent : Option Student}
    (invariant : (studentDiscipline libraries guarded).inv store)
    (known : ∀ student, dependent = some student →
      Known student store ∧ student.userId = some read.id) :
    Runs (studentDiscipline libraries guarded) me
      (commitDeleteUser read dependent) (Kept libraries guarded)
      (Kept libraries guarded) store := by
  refine runs_lockingTransaction (student_stutters libraries guarded) invariant
    (fun _ _ follows => follows.inv) ?_
  intro choice done next free ok body
  obtain ⟨db, flushed, rfl⟩ := Store.commit_ok body
  obtain ⟨unlinked, unlinks, same⟩ := flushDeleteUser_ok flushed
  have effect : StudentEffect (students store)
      (.account (.deleteUser read dependent)) db.tables.students := by
    rw [same]
    rcases unlinkStudent_ok unlinks with
      ⟨_, unchanged⟩ | ⟨student, row, rfl, found, version, written⟩
    · rw [unchanged]
      exact .unchanged
    · obtain ⟨studentKnown, linked⟩ := known student rfl
      rw [written]
      exact .written student unlinkChange (.deleteUser read linked)
        (studentKnown.current found version)
  obtain ⟨kept, guaranteed, _⟩ :=
    table_step me choice ((store.releaseLocks me).setTables db) invariant
      effect rfl rfl
  exact ⟨kept, guaranteed,
    fun later follows => ⟨follows.inv, fun _ => follows.inv⟩⟩

/-! ## The cache -/

theorem runs_invalidateStudentCache {studentId : Id} {mark : WriteMark}
    {fail : Exc → Store → Prop}
    (invariant : (studentDiscipline libraries guarded).inv store)
    (settled : Settled studentId mark store) :
    Runs (studentDiscipline libraries guarded) me
      (invalidateStudentCache studentId mark) (Kept libraries guarded) fail
      store := by
  refine runs_command ?_
  intro choice ok
  refine ⟨?_, ⟨.unchanged, List.subset_cons_self _ _⟩,
    fun later follows => follows.inv⟩
  intro holds
  have fresh := CacheFresh.afterDelete (invariant holds) settled
  simpa only [(ok holds).1, if_true] using fresh

theorem runs_writeCachedStudent (loads : guarded → LoadsDumped libraries)
    {studentId : Id} {response : StudentResponse} {fail : Exc → Store → Prop}
    (invariant : (studentDiscipline libraries guarded).inv store) :
    Runs (studentDiscipline libraries guarded) me
      (writeCachedStudent libraries studentId response)
      (Kept libraries guarded) fail store := by
  refine runs_command ?_
  intro choice ok
  refine ⟨?_, ⟨.unchanged, List.Subset.refl _⟩,
    fun later follows => follows.inv⟩
  intro holds
  obtain ⟨up, notStale⟩ := ok holds
  have fresh := CacheFresh.afterSet (loads holds) (choice.now + 60) (invariant holds)
    (freshFor_of_not_stale notStale)
  simpa only [up, if_true] using fresh

/-- What a read may answer: nothing older than the writes that had returned
when it started. -/
def Answers (guarded : Prop) (started : List (Id × WriteMark))
    (studentId : Id) (response : StudentResponse) : Prop :=
  guarded → FreshFor started studentId response.versionId

theorem runs_readCachedStudent {started : List (Id × WriteMark)}
    {studentId : Id} {post : Option StudentResponse → Store → Prop}
    {fail : Exc → Store → Prop}
    (invariant : (studentDiscipline libraries guarded).inv store)
    (included : started ⊆ store.returned)
    (returns : ∀ cached later,
      Later (studentDiscipline libraries guarded) me store later →
      (∀ response, cached = some response →
        Answers guarded started studentId response) → post cached later) :
    Runs (studentDiscipline libraries guarded) me
      (readCachedStudent libraries studentId) post fail store := by
  refine runs_observe (student_stutters libraries guarded) invariant ?_
  intro choice later follows
  refine returns _ later follows ?_
  intro response loaded holds mark member
  obtain ⟨entry, kept, loads⟩ := Option.bind_eq_some_iff.mp loaded
  obtain ⟨cached, _⟩ := Option.filter_eq_some_iff.mp kept
  split at loads
  · cases loads
  · exact (invariant holds).entries studentId entry response cached loads mark
      (included member)

/-! ## Clean-up -/

variable (libraries guarded) in
/-- A request that keeps the invariant, whether it returns or raises. -/
abbrev Keeps (me : Nat) (request : Py α) (store : Store) : Prop :=
  Runs (studentDiscipline libraries guarded) me request
    (Kept libraries guarded) (Kept libraries guarded) store

theorem keeps_of_leaves {program : Py α} (leaves : Leaves studentView program)
    (invariant : (studentDiscipline libraries guarded).inv store) :
    Keeps libraries guarded me program store :=
  runs_beside leaves invariant (fun _ _ follows => follows.inv)
    fun _ _ follows => follows.inv

theorem keeps_rollback
    (invariant : (studentDiscipline libraries guarded).inv store) :
    Keeps libraries guarded me rollback store :=
  keeps_of_leaves (leaves_rollback studentView_beside.toBesideLocks) invariant

theorem runs_reraise {exc : Exc} {post : α → Store → Prop}
    (invariant : (studentDiscipline libraries guarded).inv store) :
    Runs (studentDiscipline libraries guarded) me
      (do
        rollback
        throw exc) post (Kept libraries guarded) store :=
  runs_bind (runs_mono (keeps_rollback invariant)
    (fun _ _ kept => runs_throw _ kept) fun _ _ kept => kept)

theorem runs_handled {handler : Exc → Py α} (handles : Handles handler)
    (exc : Exc) {post : α → Store → Prop}
    (invariant : (studentDiscipline libraries guarded).inv store) :
    Runs (studentDiscipline libraries guarded) me (handler exc) post
      (Kept libraries guarded) store := by
  rcases handles exc with same | ⟨_, _, reported, _, _, same⟩
  · rw [same]
    exact runs_throw _ invariant
  · rw [same]
    exact runs_reraise invariant

/-! ## Requests -/

theorem runs_refreshStudent {studentId : Id} {post : Student → Store → Prop}
    {fail : Exc → Store → Prop}
    (invariant : (studentDiscipline libraries guarded).inv store)
    (raises : ∀ exc later,
      Later (studentDiscipline libraries guarded) me store later →
      fail exc later)
    (returns : ∀ row later,
      Later (studentDiscipline libraries guarded) me store later →
      row.id = studentId → post row later) :
    Runs (studentDiscipline libraries guarded) me (refreshStudent studentId)
      post fail store := by
  refine runs_bind (runs_query (student_stutters libraries guarded) invariant
    raises ?_)
  intro later follows
  cases found : (students store).find? studentId with
  | none => exact runs_throw _ (raises _ later follows)
  | some row =>
      exact runs_pure row (returns row later follows (Table.key_of_find? found))

/-- The read before a write: the row that was found is known afterwards. -/
theorem runs_loadStudent {studentId : Id} {next : Option Student → Py α}
    (invariant : (studentDiscipline libraries guarded).inv store)
    (missing : ∀ later, (studentDiscipline libraries guarded).inv later →
      Keeps libraries guarded me (next none) later)
    (found : ∀ student later, student.id = studentId →
      (studentDiscipline libraries guarded).inv later → Known student later →
      Keeps libraries guarded me (next (some student)) later) :
    Keeps libraries guarded me
      (query (fun store => store.db.tables.students.find? studentId) >>= next)
      store := by
  refine runs_bind (runs_query (student_stutters libraries guarded) invariant
    (fun _ _ follows => follows.inv) ?_)
  intro later follows
  cases row : (students store).find? studentId with
  | none => exact missing later follows.inv
  | some student =>
      exact found student later (Table.key_of_find? row) follows.inv
        ((Known.of_found row).forward follows.rely)

theorem runs_finishWrite {studentId : Id} {mark : WriteMark} (answer : α)
    (invariant : (studentDiscipline libraries guarded).inv store)
    (settled : Settled studentId mark store) :
    Keeps libraries guarded me
      (do
        invalidateStudentCache studentId mark
        return answer) store :=
  runs_bind (runs_mono (runs_invalidateStudentCache invariant settled)
    (fun _ _ kept => runs_pure answer kept) fun _ _ kept => kept)

theorem runs_updateStudent {studentUpdate : StudentUpdate} {studentId : Id}
    (invariant : (studentDiscipline libraries guarded).inv store) :
    Keeps libraries guarded me (updateStudent studentUpdate studentId)
      store := by
  refine runs_loadStudent invariant (fun _ kept => runs_throw _ kept) ?_
  rintro student loaded rfl kept known
  simp only
  split
  · exact runs_throw _ kept
  rename_i agrees
  have agreed : ∀ version, studentUpdate.versionId = some version →
      student.versionId = version := by
    intro version carried
    simpa [carried] using agrees
  refine runs_bind (runs_tryCatch (runs_bind (runs_commitStudent kept known
    (.updateStudent studentUpdate agreed) ?_ ?_)))
  · intro exc later follows
    exact runs_handled handles_studentErrors exc follows.inv
  · intro later follows settled
    refine runs_refreshStudent follows.inv ?_ ?_
    · intro exc last further
      exact runs_handled handles_studentErrors exc further.inv
    · exact fun row last further _ => runs_finishWrite row further.inv
        (settled.forward further.rely)

theorem runs_linkStudentToUser {studentId userId : Id}
    (invariant : (studentDiscipline libraries guarded).inv store) :
    Keeps libraries guarded me (linkStudentToUser studentId userId) store := by
  have still := student_stutters libraries guarded
  refine runs_loadStudent invariant (fun _ kept => runs_throw _ kept) ?_
  rintro student loaded rfl kept known
  refine runs_bind (runs_query still kept (fun _ _ follows => follows.inv) ?_)
  intro afterUser readUser
  cases loaded.db.tables.users.find? userId with
  | none => exact runs_throw _ readUser.inv
  | some user =>
      simp only
      split
      · exact runs_throw _ readUser.inv
      rename_i free
      have unlinked : student.userId = none := by simpa using free
      refine runs_bind (runs_query still readUser.inv
        (fun _ _ follows => follows.inv) ?_)
      intro afterLinked readLinked
      split
      · exact runs_throw _ readLinked.inv
      have stillKnown : Known student afterLinked :=
        known.forward (readUser.rely.trans readLinked.rely)
      refine runs_bind (runs_tryCatch (runs_bind (runs_commitStudent
        readLinked.inv stillKnown (.linkStudentToUser userId unlinked)
        ?_ ?_)))
      · exact fun exc _ follows => runs_handled handles_linkErrors exc follows.inv
      · intro committed follows settled
        refine runs_bind (runs_refreshStudent follows.inv ?_ ?_)
        · exact fun exc _ further => runs_handled handles_linkErrors exc further.inv
        · intro updated refreshed further same
          refine runs_bind (runs_beside (leaves_refreshUser user.id)
            further.inv ?_ ?_)
          · exact fun exc _ finally_ => runs_handled handles_linkErrors exc finally_.inv
          · intro _ last finally_
            rw [← same] at settled
            exact runs_finishWrite updated finally_.inv
              (settled.forward (further.rely.trans finally_.rely))

theorem runs_deleteStudent {studentId : Id}
    (invariant : (studentDiscipline libraries guarded).inv store) :
    Keeps libraries guarded me (deleteStudent studentId) store := by
  have still := student_stutters libraries guarded
  have deletes : Runs (studentDiscipline libraries guarded) me
      (deleteRow (deleteStudentRow studentId))
      (fun _ later => (studentDiscipline libraries guarded).inv later ∧
        Settled studentId .deleted later) (Kept libraries guarded) store := by
    refine runs_bind (runs_query still invariant
      (fun _ _ follows => follows.inv) ?_)
    intro loaded follows
    cases found : (deleteStudentRow studentId).load store.db.tables with
    | none => exact runs_throw _ follows.inv
    | some student =>
        have key : student.id = studentId := Table.key_of_find? found
        have known : Known student loaded :=
          (Known.of_found found).forward follows.rely
        refine runs_bind (runs_tryCatch (runs_bind (runs_query still
          follows.inv ?_ ?_)))
        · exact fun exc _ further => runs_handled (handles_referenced _) exc further.inv
        · intro afterRead further
          refine runs_commitDeleteStudent further.inv
            (known.forward further.rely) ?_ ?_
          · exact fun exc _ last => runs_handled (handles_referenced _) exc last.inv
          · intro _ last gone
            rw [key] at gone
            exact runs_pure student ⟨last.inv, gone⟩
  refine runs_bind (runs_mono deletes ?_ fun _ _ kept => kept)
  exact fun _ later done => runs_finishWrite studentDeleted done.1 done.2

theorem runs_deleteUser {userId : Id}
    (invariant : (studentDiscipline libraries guarded).inv store) :
    Keeps libraries guarded me (deleteUser userId) store := by
  have still := student_stutters libraries guarded
  refine runs_bind (runs_query still invariant
    (fun _ _ follows => follows.inv) ?_)
  intro loaded follows
  cases store.db.tables.users.find? userId with
  | none => exact runs_throw _ follows.inv
  | some user =>
      refine runs_bind (runs_beside (leaves_ensureAdminRemains
        studentView_beside.toBesideLocks user none) follows.inv
        (fun _ _ further => further.inv) ?_)
      intro _ checked further
      refine runs_bind (runs_tryCatch (runs_bind (runs_query still
        further.inv ?_ ?_)))
      · exact fun exc _ last => runs_handled (handles_referenced userReferenced) exc last.inv
      · intro afterRead readDependent
        refine runs_mono (runs_commitDeleteUser readDependent.inv ?_) ?_ ?_
        · intro student found
          have member := List.mem_of_find?_eq_some found
          exact ⟨(Known.of_found (Table.find?_of_mem member)).forward
            readDependent.rely, by simpa using List.find?_some found⟩
        · exact fun _ _ kept => runs_pure userDeleted kept
        · exact fun exc _ kept => runs_handled (handles_referenced userReferenced) exc kept

theorem runs_lookUpStudent {started : List (Id × WriteMark)}
    {studentId : Id} {caches : Bool}
    {post : Option StudentResponse → Store → Prop} {fail : Exc → Store → Prop}
    (invariant : (studentDiscipline libraries guarded).inv store)
    (included : started ⊆ store.returned)
    (returns : ∀ cached later,
      Later (studentDiscipline libraries guarded) me store later →
      (∀ response, cached = some response →
        Answers guarded started studentId response) → post cached later) :
    Runs (studentDiscipline libraries guarded) me
      (lookUpStudent libraries studentId caches) post fail store := by
  cases caches with
  | true => exact runs_readCachedStudent invariant included returns
  | false =>
      exact runs_pure none (returns none store (.refl invariant) nofun)

theorem runs_readStudent (loads : guarded → LoadsDumped libraries)
    {started : List (Id × WriteMark)} {studentId : Id} {user : User}
    (invariant : (studentDiscipline libraries guarded).inv store)
    (included : started ⊆ store.returned) :
    Runs (studentDiscipline libraries guarded) me
      (readStudent libraries studentId user)
      (fun response later => (studentDiscipline libraries guarded).inv later ∧
        Answers guarded started studentId response)
      (Kept libraries guarded) store := by
  have still := student_stutters libraries guarded
  refine runs_bind (runs_observe still invariant ?_)
  intro choice afterClient client
  simp only
  split
  · exact runs_throw _ client.inv
  have stillIncluded : started ⊆ afterClient.returned :=
    List.Subset.trans included client.rely.returned
  refine runs_bind (runs_lookUpStudent client.inv stillIncluded ?_)
  intro cached later read answers
  cases cached with
  | some response => exact runs_pure response ⟨read.inv, answers response rfl⟩
  | none =>
      refine runs_bind (runs_cast still read.inv
        (fun _ _ follows => follows.inv) ?_)
      intro afterRead follows
      cases seen : (later.db.tables.students.find? studentId).filter
          (maySee user) with
      | none => exact runs_throw _ follows.inv
      | some student =>
          have found := (Option.filter_eq_some_iff.mp seen).1
          have fresh : Answers guarded started studentId (.ofRow student) := by
            intro holds mark member
            exact (read.inv holds).rows studentId student found mark
              (read.rely.returned (stillIncluded member))
          simp only [modelValidate_bind]
          split
          · split
            · exact runs_bind (runs_mono
                (runs_writeCachedStudent loads follows.inv)
                (fun _ _ last => runs_pure _ ⟨last, fresh⟩)
                fun _ _ last => last)
            · exact runs_pure _ ⟨follows.inv, fresh⟩
          · exact runs_throw _ follows.inv

end Specifications

end SystemUni.Students.Requests
