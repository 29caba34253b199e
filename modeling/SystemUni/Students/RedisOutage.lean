import SystemUni.Crud.Student
import SystemUni.Runtime.Rules

/-!
# Without Redis

A read that finds nothing usable in the cache is answered out of the database,
and the writes of student rows depend on the database only: whatever becomes
of the single calls to Redis, both are as if there were none.
-/

set_option autoImplicit false

namespace SystemUni.Students.RedisOutage

open Interleaving Relational
open SystemUni.Runtime.Errors
open SystemUni.Runtime.External
open SystemUni.Runtime.Statements
open SystemUni.Runtime.Rules
open SystemUni.Models.Rows
open SystemUni.Models.Changes
open SystemUni.Models.Schema
open SystemUni.Crud.User
open SystemUni.Crud.Deletion
open SystemUni.Crud.Student
open SystemUni.Schemas.Fields

/-! ## The writes depend on the database -/

section Writes

variable {allowed : Choice → Prop} [Answered allowed] {α : Type}

theorem depends_commit {label : Label} {flush : Tables → Except SqlError Tables} :
    Depends Store.db allowed
      (transaction label fun _ store => store.commit flush) := by
  refine depends_transaction ?_
  intro choice store other otherStore _ _ same
  unfold Store.commit
  rw [same]
  cases store.db.commit flush with
  | ok db => rfl
  | error kind => rfl

omit [Answered allowed] in
theorem depends_reraise {exc : Exc} :
    Depends Store.db allowed (do
      rollback
      throw exc : Py α) :=
  depends_bind (depends_command fun _ _ _ _ _ _ _ _ same => ⟨same, rfl⟩)
    fun _ => depends_throw

omit [Answered allowed] in
theorem depends_handled {handler : Exc → Py α} (handles : Handles handler)
    (exc : Exc) : Depends Store.db allowed (handler exc) := by
  rcases handles exc with same | ⟨_, _, reported, _, _, same⟩
  · rw [same]
    exact depends_throw
  · rw [same]
    exact depends_reraise

theorem depends_tables (read : Tables → α) :
    Depends Store.db allowed (query fun store => read store.db.tables) :=
  depends_query fun _ _ same => by rw [same]

theorem depends_refreshStudent (studentId : Id) :
    Depends Store.db allowed (refreshStudent studentId) := by
  refine depends_bind (depends_tables
    fun tables => tables.students.find? studentId) ?_
  intro student
  cases student with
  | none => exact depends_throw
  | some student => exact depends_pure

theorem depends_refreshUser (userId : Id) :
    Depends Store.db allowed (refreshUser userId) := by
  refine depends_bind (depends_tables
    fun tables => tables.users.find? userId) ?_
  intro user
  cases user with
  | none => exact depends_throw
  | some user => exact depends_pure

omit [Answered allowed] in
/-- Whether the call to Redis succeeds does not show. -/
theorem depends_invalidateStudentCache (studentId : Id) (mark : WriteMark) :
    Depends Store.db allowed (invalidateStudentCache studentId mark) :=
  depends_command fun _ _ _ _ _ _ _ _ same => ⟨same, rfl⟩

theorem depends_updateStudent (studentUpdate : StudentUpdate)
    (studentId : Id) :
    Depends Store.db allowed (updateStudent studentUpdate studentId) := by
  refine depends_bind (depends_tables
    fun tables => tables.students.find? studentId) ?_
  intro student
  cases student with
  | none => exact depends_throw
  | some student =>
      dsimp only
      split
      · exact depends_throw
      refine depends_bind (depends_tryCatch (depends_bind depends_commit
        fun _ => depends_refreshStudent student.id)
        (depends_handled handles_studentErrors)) ?_
      intro updated
      exact depends_bind (depends_invalidateStudentCache studentId _)
        fun _ => depends_pure

theorem depends_deleteStudent (studentId : Id) :
    Depends Store.db allowed (deleteStudent studentId) := by
  refine depends_bind (depends_bind (depends_tables fun tables =>
    tables.students.find? studentId) ?_) ?_
  · intro student
    cases student with
    | none => exact depends_throw
    | some student =>
        refine depends_bind (depends_tryCatch (depends_bind
          (depends_tables fun tables => tables.enrollments.rows.filter fun row =>
            decide (row.studentId = student.id))
          fun _ => depends_commit) (depends_handled (handles_referenced _))) ?_
        exact fun _ => depends_pure
  · intro student
    exact depends_bind (depends_invalidateStudentCache studentId .deleted)
      fun _ => depends_pure

theorem depends_linkStudentToUser (studentId userId : Id) :
    Depends Store.db allowed (linkStudentToUser studentId userId) := by
  refine depends_bind (depends_tables
    fun tables => tables.students.find? studentId) ?_
  intro student
  cases student with
  | none => exact depends_throw
  | some student =>
      refine depends_bind (depends_tables
        fun tables => tables.users.find? userId) ?_
      intro user
      cases user with
      | none => exact depends_throw
      | some user =>
          dsimp only
          split
          · exact depends_throw
          refine depends_bind (depends_tables fun tables =>
            tables.students.rows.find? fun row =>
              decide (row.userId = some user.id)) ?_
          intro linked
          split
          · exact depends_throw
          refine depends_bind (depends_tryCatch (depends_bind depends_commit
            fun _ => depends_bind (depends_refreshStudent student.id)
              fun updated => depends_bind (depends_refreshUser user.id)
                fun _ => depends_pure) (depends_handled handles_linkErrors)) ?_
          intro updated
          exact depends_bind (depends_invalidateStudentCache updated.id _)
            fun _ => depends_pure

end Writes

/-! ## The read answers out of the database -/

/-- No text in the cache for this student can be loaded. -/
def Unusable (libraries : Libraries) (studentId : Id) (store : Store) : Prop :=
  ∀ entry, store.cache studentId = some entry →
    entry.json = "" ∨ libraries.loadStudent entry.json = none

/-- What `read_student` answers out of the database. -/
def databaseResponse (libraries : Libraries) (studentId : Id) (user : User)
    (tables : Tables) : Except Exc StudentResponse :=
  if user.role = .guest then .error Crud.Student.forbidden
  else if fitsInteger studentId then
    match (tables.students.find? studentId).filter (maySee user) with
    | none => .error studentNotFound
    | some student =>
        if studentResponse libraries.emailStr student then
          .ok (.ofRow student)
        else .error validationError
  else .error (.sql .dataError SqlError.dataError.typeName)

section Reads

variable {libraries : Libraries} {studentId : Id} {user : User} {me : Nat}
  {store : Store} {allowed : Choice → Prop} [Answered allowed]

omit [Answered allowed] in
/-- A cache in which nothing can be loaded answers nothing. -/
theorem finishes_lookUpStudent {caches : Bool}
    {post : Option StudentResponse → Store → Prop} {fail : Exc → Store → Prop}
    (unusable : (∃ choice, allowed choice ∧ choice.redisUp = true) →
      Unusable libraries studentId store)
    (returns : post none store) :
    Finishes allowed me (lookUpStudent libraries studentId caches) post fail
      store := by
  cases caches with
  | false => exact finishes_pure none returns
  | true =>
      refine finishes_command fun choice allows => ?_
      have nothing : (((store.cache studentId).filter fun entry =>
          choice.redisUp && decide (choice.now < entry.expiresAt)).bind
            fun entry => if entry.json = "" then none
              else libraries.loadStudent entry.json) = none := by
        rw [Option.bind_eq_none_iff]
        intro entry kept
        obtain ⟨cached, answers⟩ := Option.filter_eq_some_iff.mp kept
        have reached : choice.redisUp = true :=
          (Bool.and_eq_true_iff.mp answers).1
        rcases unusable ⟨choice, allows, reached⟩ entry cached with
          empty | invalid
        · rw [if_pos empty]
        · split
          · rfl
          · exact invalid
      change post (((store.cache studentId).filter fun entry =>
        choice.redisUp && decide (choice.now < entry.expiresAt)).bind
          fun entry => if entry.json = "" then none
            else libraries.loadStudent entry.json) store
      rw [nothing]
      exact returns

theorem finishes_readStudent
    (unusable : (∃ choice, allowed choice ∧ choice.redisUp = true) →
      Unusable libraries studentId store) :
    Finishes allowed me (readStudent libraries studentId user)
      (fun response later => .ok response =
        databaseResponse libraries studentId user store.db.tables ∧
          later.db = store.db)
      (fun exc later => .error exc =
        databaseResponse libraries studentId user store.db.tables ∧
          later.db = store.db)
      store := by
  refine finishes_bind (finishes_command fun choice _ => ?_)
  unfold databaseResponse
  split
  · exact finishes_throw _ ⟨rfl, rfl⟩
  refine finishes_bind (finishes_lookUpStudent unusable ?_)
  refine finishes_bind (finishes_select (fun fits => ?_) fun misfit => ?_)
  · rw [if_pos fits]
    cases found : (store.db.tables.students.find? studentId).filter
        (maySee user) with
    | none => exact finishes_throw _ ⟨rfl, rfl⟩
    | some student =>
        simp only [modelValidate_bind]
        split
        · split
          · exact finishes_bind (finishes_command fun _ _ =>
              finishes_pure _ ⟨rfl, rfl⟩)
          · exact finishes_pure _ ⟨rfl, rfl⟩
        · exact finishes_throw _ ⟨rfl, rfl⟩
  · rw [if_neg (by simp [misfit])]
    exact ⟨rfl, rfl⟩

end Reads

/-! ## With any Redis as with none -/

/-- No call reaches Redis; the database answers. -/
structure WithoutRedis (choice : Choice) : Prop where
  done : choice.call = .done
  down : choice.redisUp = false

instance : Answered WithoutRedis := ⟨fun _ without => without.done⟩

/-- Two executions, one with a Redis that does as it likes and one without,
both end, in the same answer and the same database. -/
def AsWithoutRedis {α : Type} (request : Py α) (me other : Nat)
    (cached plain : Store) : Prop :=
  (∃ answer last, Evaluates (Condition.allowing callSucceeds) me request.run
    cached answer last) ∧
  (∃ answer last, Evaluates (Condition.allowing WithoutRedis) other request.run
    plain answer last) ∧
  ∀ answer last plainAnswer plainLast,
    Evaluates (Condition.allowing callSucceeds) me request.run cached answer
      last →
    Evaluates (Condition.allowing WithoutRedis) other request.run plain
      plainAnswer plainLast →
    answer = plainAnswer ∧ last.db = plainLast.db

section Compared

variable {me other : Nat} {cached plain : Store}

theorem asWithoutRedis_of_depends {α : Type} {request : Py α}
    (depends : Depends Store.db callSucceeds request)
    (same : cached.db = plain.db) :
    AsWithoutRedis request me other cached plain := by
  have down : WithoutRedis { redisUp := false } := ⟨rfl, rfl⟩
  obtain ⟨answer, last, runs, _⟩ :=
    alone_evaluates request.run cached (determined_finishes depends cached)
      ({} : Choice) rfl
  refine ⟨⟨answer, last, runs⟩, ?_, ?_⟩
  · have finishes : Alone WithoutRedis other request.run (fun _ _ => True)
        plain := alone_weaken request.run plain
      (fun _ without => without.done) (determined_finishes depends plain)
    obtain ⟨answer, last, runs, _⟩ :=
      alone_evaluates request.run plain finishes _ down
    exact ⟨answer, last, runs⟩
  · intro answer last plainAnswer plainLast runs plainRuns
    have weaker : Evaluates (Condition.allowing callSucceeds) other request.run
        plain plainAnswer plainLast :=
      plainRuns.weaken fun _ _ _ without => without.done
    exact determined_runs depends weaker runs same

theorem asWithoutRedis_readStudent {libraries : Libraries} {studentId : Id}
    {user : User} (same : cached.db = plain.db)
    (unusable : Unusable libraries studentId cached) :
    AsWithoutRedis (readStudent libraries studentId user) me other cached
      plain := by
  have finishes := @finishes_readStudent libraries studentId user me cached
    callSucceeds _ fun _ => unusable
  have plainFinishes := @finishes_readStudent libraries studentId user other
    plain WithoutRedis _ (by
      rintro ⟨choice, without, up⟩
      rw [without.down] at up
      cases up)
  obtain ⟨answer, last, runs, _⟩ :=
    evaluates_of_finishes finishes ({} : Choice) rfl
  obtain ⟨plainAnswer, plainLast, plainRuns, _⟩ :=
    evaluates_of_finishes plainFinishes { redisUp := false } ⟨rfl, rfl⟩
  refine ⟨⟨answer, last, runs⟩, ⟨plainAnswer, plainLast, plainRuns⟩, ?_⟩
  have answers : ∀ answer last,
      Evaluates (Condition.allowing callSucceeds) me
        (readStudent libraries studentId user).run cached answer last →
      answer = databaseResponse libraries studentId user cached.db.tables ∧
        last.db = cached.db := by
    intro answer last runs
    have ends := runs.ensured (yields_of_finishes finishes)
    cases answer with
    | ok response => exact ends
    | error exc => exact ends
  intro answer last plainAnswer plainLast runs plainRuns
  obtain ⟨isAnswer, kept⟩ := answers answer last runs
  have ends := plainRuns.ensured (yields_of_finishes plainFinishes)
  have plainAnswers : plainAnswer =
      databaseResponse libraries studentId user plain.db.tables ∧
        plainLast.db = plain.db := by
    cases plainAnswer with
    | ok response => exact ends
    | error exc => exact ends
  rw [isAnswer, plainAnswers.1, kept, plainAnswers.2, same]
  exact ⟨rfl, rfl⟩

end Compared

/-- With a Redis that may be missing, fail at every single call and answer no
text that can be loaded, students are read and written as without Redis. -/
theorem redis_never_load_bearing (libraries : Libraries) (me other : Nat)
    (cached plain : Store) (same : cached.db = plain.db) :
    (∀ user studentId, Unusable libraries studentId cached →
      AsWithoutRedis (readStudent libraries studentId user) me other cached
        plain) ∧
    (∀ studentUpdate studentId, AsWithoutRedis
      (updateStudent studentUpdate studentId) me other cached plain) ∧
    (∀ studentId, AsWithoutRedis (deleteStudent studentId) me other cached
      plain) ∧
    ∀ studentId userId, AsWithoutRedis (linkStudentToUser studentId userId) me
      other cached plain := by
  refine ⟨?_, ?_, ?_, ?_⟩
  · intro user studentId unusable
    exact asWithoutRedis_readStudent same unusable
  · intro studentUpdate studentId
    exact asWithoutRedis_of_depends (depends_updateStudent _ _) same
  · intro studentId
    exact asWithoutRedis_of_depends (depends_deleteStudent _) same
  · intro studentId userId
    exact asWithoutRedis_of_depends (depends_linkStudentToUser _ _) same

/-- A broken text in the cache changes nothing. -/
def corruptedStore : Store :=
  { sampleStore with cache := fun _ => some ⟨"\x7b", 60⟩ }

theorem redis_never_load_bearing_corrupted :
    AsWithoutRedis (readStudent sampleLibraries 1 sampleAdmin) 0 1
      corruptedStore sampleStore := by
  have unusable : Unusable sampleLibraries 1 corruptedStore := by
    intro entry cached
    cases cached
    exact .inr rfl
  exact (redis_never_load_bearing sampleLibraries 0 1 corruptedStore
    sampleStore rfl).1 sampleAdmin 1 unusable

end SystemUni.Students.RedisOutage
