import SystemUni.Accounts.Writers
import SystemUni.Students.Frame

/-!
# The writers of students, one at a time

What each function that writes student rows leaves of the tables and of the
cache when it has finished.
-/

set_option autoImplicit false

namespace SystemUni.Students.Writers

open Interleaving Relational
open SystemUni.Runtime.Errors
open SystemUni.Runtime.External
open SystemUni.Runtime.Statements
open SystemUni.Runtime.Rules
open SystemUni.Models.Rows
open SystemUni.Models.Changes
open SystemUni.Models.Schema
open SystemUni.Crud.User
open SystemUni.Crud.Deletion
open SystemUni.Crud.Student
open SystemUni.Accounts.Frame
open SystemUni.Accounts.Writers

/-- Some call may fail. -/
def Unreliable (condition : Condition university) : Prop :=
  ∃ label store, Risky condition label store

def RedisUp (condition : Condition university) : Prop :=
  ∀ label choice store, condition label choice store → choice.redisUp = true

/-! ## What a writer does -/

/-- A new student with the fields of the payload. -/
def Enlisted (student : StudentCreate) (before after : Tables) : Prop :=
  ∃ choice, ∃ fresh : before.students.find? (student.row choice).id = none,
    after = { before with
      students := before.students.insert (student.row choice) fresh }

/-- The loaded row has been written with these columns, if any changed. -/
def Saved (student : Student) (change : StudentChange)
    (before after : Tables) : Prop :=
  let version := student.versionId
  change = {} ∧ after = before ∨
    change ≠ {} ∧ after = { before with
      students := before.students.updateWhere
        (fun row => decide (row.id = student.id))
        (change.apply version) (change.apply_id version) }

/-- No other entry has changed, and this one is gone where Redis was up. -/
def Cleared (condition : Condition university) (studentId : Id)
    (before after : Id → Option CacheEntry) : Prop :=
  (∀ other, other ≠ studentId → after other = before other) ∧
    (RedisUp condition → after studentId = none)

section Specifications

variable {condition : Condition university} {me : Nat} {store : Store}
  {α : Type}

/-- A failed write has left everything as it was, or it was committed before a
call failed. -/
def FailedWrite (condition : Condition university) (done : Tables → Prop)
    (before after : Store) : Prop :=
  after.cache = before.cache ∧ (committed after = committed before ∨
    Unreliable condition ∧ done (committed after))

theorem FailedWrite.unchanged {done : Tables → Prop} :
    FailedWrite condition done store store := ⟨rfl, .inl rfl⟩

theorem yields_flush {label : Label}
    {flush : Tables → Except SqlError Tables} (done : Tables → Prop)
    (flushes : ∀ after, flush (committed store) = .ok after → done after) :
    Yields condition me
      (transaction label fun _ store => store.commit flush)
      (fun _ later => later.cache = store.cache ∧ done (committed later))
      (fun _ later => FailedWrite condition done store later) store := by
  refine yields_transaction (fun _ _ _ => .unchanged) ?_
    (fun _ _ _ _ => .unchanged)
  intro choice value next _ body
  obtain ⟨db, flushed, rfl⟩ := Store.commit_ok body
  have holds : done db.tables := flushes db.tables flushed
  exact ⟨⟨rfl, holds⟩, fun _ _ risky => ⟨rfl, .inr ⟨⟨_, _, risky⟩, holds⟩⟩⟩

theorem yields_rethrow {exc : Exc} {post : α → Store → Prop}
    {done : Tables → Prop} {start : Store}
    (failed : FailedWrite condition done start store) :
    Yields condition me
      (do
        rollback
        throw exc : Py α) post
      (fun _ later => FailedWrite condition done start later) store :=
  yields_bind (yields_command fun _ _ => yields_throw failed)

theorem yields_failedWrite {handler : Exc → Py α} (handles : Handles handler)
    {exc : Exc} {post : α → Store → Prop} {done : Tables → Prop}
    {start : Store} (failed : FailedWrite condition done start store) :
    Yields condition me (handler exc) post
      (fun _ later => FailedWrite condition done start later) store := by
  rcases handles exc with same | ⟨_, _, reported, _, _, same⟩
  · rw [same]
    exact yields_throw failed
  · rw [same]
    exact yields_rethrow failed

theorem yields_refreshStudent {studentId : Id} {row : Student}
    {done : Tables → Prop} {start : Store}
    (found : (committed store).students.find? studentId = some row)
    (unchanged : store.cache = start.cache) (holds : done (committed store)) :
    Yields condition me (refreshStudent studentId)
      (fun value later => value = row ∧ later.cache = start.cache ∧
        done (committed later))
      (fun _ later => FailedWrite condition done start later) store := by
  refine yields_bind (yields_query
    (fun _ _ risky => ⟨unchanged, .inr ⟨⟨_, _, risky⟩, holds⟩⟩) ?_)
  have read : store.db.tables.students.find? studentId = some row := found
  rw [read]
  exact yields_pure ⟨rfl, unchanged, holds⟩

theorem yields_refreshLoadedUser {userId : Id} {user : User}
    {done : Tables → Prop} {start : Store}
    (found : (committed store).users.find? userId = some user)
    (unchanged : store.cache = start.cache) (holds : done (committed store)) :
    Yields condition me (refreshUser userId)
      (fun _ later => later.cache = start.cache ∧ done (committed later))
      (fun _ later => FailedWrite condition done start later) store := by
  refine yields_bind (yields_query
    (fun _ _ risky => ⟨unchanged, .inr ⟨⟨_, _, risky⟩, holds⟩⟩) ?_)
  have read : store.db.tables.users.find? userId = some user := found
  rw [read]
  exact yields_pure ⟨unchanged, holds⟩

/-- Invalidation is the last step of a write. -/
theorem yields_invalidate {studentId : Id} {mark : WriteMark}
    {start : Store} {done : Tables → Prop}
    (unchanged : store.cache = start.cache) (holds : done (committed store)) :
    Yields condition me (invalidateStudentCache studentId mark)
      (fun _ later =>
        Cleared condition studentId start.cache later.cache ∧
          done (committed later))
      (fun _ later => FailedWrite condition done start later) store := by
  refine yields_command fun choice admitted => ⟨⟨?_, ?_⟩, holds⟩
  · intro other different
    change (if choice.redisUp then fun id =>
      if id = studentId then none else store.cache id else store.cache)
        other = start.cache other
    rw [unchanged]
    split
    · exact if_neg different
    · rfl
  · intro reachable
    have up := reachable _ _ _ admitted
    change (if choice.redisUp then fun id =>
      if id = studentId then none else store.cache id else store.cache)
        studentId = none
    simp [up]

theorem yields_commitNewStudent {student : StudentCreate} :
    Yields condition me (commitNewStudent student)
      (fun row later => later.cache = store.cache ∧
        Enlisted student (committed store) (committed later) ∧
        (committed later).students.find? row.id = some row)
      (fun _ later => FailedWrite condition
        (Enlisted student (committed store)) store later) store := by
  refine yields_transaction (fun _ _ _ => .unchanged) ?_
    (fun _ _ _ _ => .unchanged)
  intro choice row next _ body
  obtain ⟨pair, done, becomes⟩ := mapped_ok body
  cases becomes
  obtain ⟨db, inserted, isNext⟩ := Store.commit_ok done
  obtain ⟨fresh, isAfter⟩ := insertStudent_ok inserted
  have enlisted : Enlisted student (committed store) (committed pair.2) := by
    rw [isNext]
    exact ⟨choice, fresh, isAfter⟩
  have unchanged : pair.2.cache = store.cache := by
    rw [isNext]
    rfl
  refine ⟨⟨unchanged, enlisted, ?_⟩, fun _ _ risky =>
    ⟨unchanged, .inr ⟨⟨_, _, risky⟩, enlisted⟩⟩⟩
  rw [isNext]
  change db.tables.students.find? (student.row choice).id = _
  rw [isAfter]
  exact (Table.find?_insert _ _ fresh _).trans (if_pos rfl)

theorem yields_createStudent {student : StudentCreate} :
    Yields condition me (createStudent student)
      (fun _ later => later.cache = store.cache ∧
        Enlisted student (committed store) (committed later))
      (fun _ later => FailedWrite condition
        (Enlisted student (committed store)) store later) store := by
  refine yields_tryCatch (yields_bind (yields_mono yields_commitNewStudent
    ?_ fun _ _ failed => yields_failedWrite handles_createErrors failed))
  rintro row later ⟨unchanged, enlisted, found⟩
  exact yields_mono (yields_refreshStudent found unchanged enlisted)
    (fun _ _ done => done.2) fun _ _ failed => yields_failedWrite handles_createErrors failed

/-- The loaded row is still there at its version and is written. -/
theorem saved_of_flush {student : Student} {change : StudentChange}
    {before after : Tables}
    (loaded : before.students.find? student.id = some student)
    (flushed : flushStudent student change before = .ok after) :
    Saved student change before after ∧
      ∃ row, after.students.find? student.id = some row := by
  rcases flushStudent_ok flushed with ⟨empty, rfl⟩ | ⟨dirtied, _, _, _, rfl⟩
  · exact ⟨.inl ⟨empty, rfl⟩, student, loaded⟩
  · refine ⟨.inr ⟨dirtied, rfl⟩, change.apply student.versionId student, ?_⟩
    refine (Table.find?_updateWhere before.students _ _
      (StudentChange.apply_id _ _) student.id).trans ?_
    rw [loaded]
    simp

theorem yields_saveStudent {student : Student} {change : StudentChange}
    {carried : Option Nat}
    (loaded : (committed store).students.find? student.id = some student) :
    Yields condition me
      (tryCatch
        (do
          commitStudent student change carried
          refreshStudent student.id)
        handleStudentErrors)
      (fun _ later => later.cache = store.cache ∧
        Saved student change (committed store) (committed later))
      (fun _ later => FailedWrite condition
        (Saved student change (committed store)) store later) store := by
  have commits : Yields condition me
      (commitStudent student change carried) _ _ store := yields_flush
    (fun after => Saved student change (committed store) after ∧
      ∃ row, after.students.find? student.id = some row)
    fun after flushed => saved_of_flush loaded flushed
  refine yields_tryCatch (yields_bind (yields_mono commits ?_ ?_))
  · rintro _ later ⟨unchanged, saved, row, found⟩
    exact yields_mono (yields_refreshStudent found unchanged saved)
      (fun _ _ done => done.2)
      fun _ _ failed => yields_failedWrite handles_studentErrors failed
  · rintro exc later ⟨unchanged, same | ⟨unreliable, saved, _⟩⟩
    · exact yields_failedWrite handles_studentErrors ⟨unchanged, .inl same⟩
    · exact yields_failedWrite handles_studentErrors
        ⟨unchanged, .inr ⟨unreliable, saved⟩⟩

def StudentUpdated (studentUpdate : StudentUpdate) (studentId : Id)
    (before after : Tables) : Prop :=
  ∃ student, before.students.find? studentId = some student ∧
    Saved student (studentChange student studentUpdate) before after

theorem yields_updateStudent {studentUpdate : StudentUpdate}
    {studentId : Id} :
    Yields condition me (updateStudent studentUpdate studentId)
      (fun _ later => Cleared condition studentId store.cache later.cache ∧
        StudentUpdated studentUpdate studentId (committed store)
          (committed later))
      (fun _ later => FailedWrite condition
        (StudentUpdated studentUpdate studentId (committed store)) store
          later) store := by
  refine yields_bind (yields_query (fun _ _ _ => .unchanged) ?_)
  cases found : store.db.tables.students.find? studentId with
  | none => exact yields_throw .unchanged
  | some student =>
      simp only
      split
      · exact yields_throw .unchanged
      have isStudent := Table.key_of_find? found
      have loaded : (committed store).students.find? student.id =
          some student := by
        rw [isStudent]
        exact found
      have updated (after : Tables)
          (saved : Saved student (studentChange student studentUpdate)
            (committed store) after) :
          StudentUpdated studentUpdate studentId (committed store) after :=
        ⟨student, found, saved⟩
      refine yields_bind (yields_mono (yields_saveStudent loaded) ?_ ?_)
      · rintro row later ⟨unchanged, saved⟩
        exact yields_bind (yields_mono
          (yields_invalidate unchanged (updated _ saved))
          (fun _ _ done => yields_pure done) fun _ _ failed => failed)
      · rintro exc later ⟨unchanged, same | ⟨unreliable, saved⟩⟩
        · exact ⟨unchanged, .inl same⟩
        · exact ⟨unchanged, .inr ⟨unreliable, updated _ saved⟩⟩

def StudentLinked (studentId userId : Id) (before after : Tables) : Prop :=
  ∃ student, before.students.find? studentId = some student ∧
    Saved student (linkChange userId) before after

theorem Saved.users {student : Student} {change : StudentChange}
    {before after : Tables} (saved : Saved student change before after) :
    after.users = before.users := by
  rcases saved with ⟨_, rfl⟩ | ⟨_, rfl⟩
  · rfl
  · rfl

theorem yields_saveLink {student : Student} {user : User}
    {change : StudentChange}
    (loaded : (committed store).students.find? student.id = some student)
    (userLoaded : (committed store).users.find? user.id = some user) :
    Yields condition me
      (tryCatch
        (do
          commitStudent student change none
          let updated ← refreshStudent student.id
          let _ ← refreshUser user.id
          return updated)
        handleLinkErrors)
      (fun row later => row.id = student.id ∧ later.cache = store.cache ∧
        Saved student change (committed store) (committed later))
      (fun _ later => FailedWrite condition
        (Saved student change (committed store)) store later) store := by
  have commits : Yields condition me
      (commitStudent student change none) _ _ store := yields_flush
    (fun after => Saved student change (committed store) after ∧
      ∃ row, after.students.find? student.id = some row)
    fun after flushed => saved_of_flush loaded flushed
  refine yields_tryCatch (yields_bind (yields_mono commits ?_ ?_))
  · rintro _ later ⟨unchanged, saved, row, found⟩
    refine yields_bind (yields_mono
      (yields_refreshStudent found unchanged saved) ?_
      fun _ _ failed => yields_failedWrite handles_linkErrors failed)
    rintro _ last ⟨rfl, unchanged, saved⟩
    have userFound : (committed last).users.find? user.id = some user := by
      rw [saved.users]
      exact userLoaded
    refine yields_bind (yields_mono
      (yields_refreshLoadedUser userFound unchanged saved) ?_
      fun _ _ failed => yields_failedWrite handles_linkErrors failed)
    rintro _ final done
    exact yields_pure ⟨Table.key_of_find? found, done⟩
  · rintro exc later ⟨unchanged, same | ⟨unreliable, saved, _⟩⟩
    · exact yields_failedWrite handles_linkErrors ⟨unchanged, .inl same⟩
    · exact yields_failedWrite handles_linkErrors ⟨unchanged, .inr ⟨unreliable, saved⟩⟩

theorem yields_linkStudentToUser {studentId userId : Id} :
    Yields condition me (linkStudentToUser studentId userId)
      (fun _ later => Cleared condition studentId store.cache later.cache ∧
        StudentLinked studentId userId (committed store) (committed later))
      (fun _ later => FailedWrite condition
        (StudentLinked studentId userId (committed store)) store later)
      store := by
  refine yields_bind (yields_query (fun _ _ _ => .unchanged) ?_)
  cases found : store.db.tables.students.find? studentId with
  | none => exact yields_throw .unchanged
  | some student =>
      refine yields_bind (yields_query (fun _ _ _ => .unchanged) ?_)
      cases userFound : store.db.tables.users.find? userId with
      | none => exact yields_throw .unchanged
      | some row =>
          simp only
          split
          · exact yields_throw .unchanged
          refine yields_bind (yields_query (fun _ _ _ => .unchanged) ?_)
          split
          · exact yields_throw .unchanged
          have isStudent := Table.key_of_find? found
          have loaded : (committed store).students.find? student.id =
              some student := by
            rw [isStudent]
            exact found
          have linked (after : Tables)
              (saved : Saved student (linkChange userId) (committed store)
                after) :
              StudentLinked studentId userId (committed store) after :=
            ⟨student, found, saved⟩
          have isUser := Table.key_of_find? userFound
          have userLoaded : (committed store).users.find? row.id =
              some row := by
            rw [isUser]
            exact userFound
          refine yields_bind (yields_mono
            (yields_saveLink loaded userLoaded) ?_ ?_)
          · rintro updated later ⟨isUpdated, unchanged, saved⟩
            rw [isUpdated, isStudent]
            exact yields_bind (yields_mono
              (yields_invalidate unchanged (linked _ saved))
              (fun _ _ done => yields_pure done) fun _ _ failed => failed)
          · rintro exc later ⟨unchanged, same | ⟨unreliable, saved⟩⟩
            · exact ⟨unchanged, .inl same⟩
            · exact ⟨unchanged, .inr ⟨unreliable, linked _ saved⟩⟩

def StudentErased (studentId : Id) (before after : Tables) : Prop :=
  after = { before with students := before.students.erase studentId }

theorem yields_deleteStudent {studentId : Id} :
    Yields condition me (deleteStudent studentId)
      (fun _ later => Cleared condition studentId store.cache later.cache ∧
        StudentErased studentId (committed store) (committed later))
      (fun _ later => FailedWrite condition
        (StudentErased studentId (committed store)) store later) store := by
  have erases : Yields condition me (deleteRow (deleteStudentRow studentId))
      (fun _ later => later.cache = store.cache ∧
        StudentErased studentId (committed store) (committed later))
      (fun _ later => FailedWrite condition
        (StudentErased studentId (committed store)) store later) store := by
    refine yields_bind (yields_query (fun _ _ _ => .unchanged) ?_)
    cases found : (deleteStudentRow studentId).load store.db.tables with
    | none => exact yields_throw .unchanged
    | some student =>
        have isStudent : student.id = studentId := Table.key_of_find? found
        refine yields_bind (yields_tryCatch (yields_bind (yields_query
          (fun _ _ _ => yields_failedWrite (handles_referenced _) .unchanged) ?_)))
        refine yields_mono (yields_flush
          (StudentErased studentId (committed store)) ?_)
          (fun _ _ done => yields_pure done)
          fun _ _ failed => yields_failedWrite (handles_referenced _) failed
        intro after flushed
        obtain ⟨_, _, _, _, isAfter⟩ := flushDeleteStudent_ok flushed
        rw [isStudent] at isAfter
        exact isAfter
  refine yields_bind (yields_mono erases ?_ fun _ _ failed => failed)
  rintro row later ⟨unchanged, erased⟩
  exact yields_bind (yields_mono (yields_invalidate unchanged erased)
    (fun _ _ done => yields_pure done) fun _ _ failed => failed)

end Specifications

end SystemUni.Students.Writers
