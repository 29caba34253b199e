import SystemUni.Crud.Student
import SystemUni.Runtime.Rules

/-!
# What student requests do to the students table

`StudentEffect` says once what a committed statement can do to the table: a
write applies to the very row its request read.  A row that is met again at
the same version is therefore the same row, which is what every session relies
on between its read and its commit.
-/

set_option autoImplicit false

namespace SystemUni.Students.Discipline

open Interleaving Relational
open SystemUni.Runtime.Errors
open SystemUni.Runtime.External
open SystemUni.Runtime.Statements
open SystemUni.Runtime.Rules
open SystemUni.Models.Rows
open SystemUni.Models.Changes
open SystemUni.Models.Schema
open SystemUni.Crud.User
open SystemUni.Crud.Student

abbrev students (store : Store) : Table Student.id := store.db.tables.students

/-! ## Effects -/

/-- What a request writes to a student row, computed from the row it read. -/
inductive StudentWrite (read : Student) : Label → StudentChange → Prop where
  | updateStudent (studentUpdate : StudentUpdate)
      (agrees : ∀ version, studentUpdate.versionId = some version →
        read.versionId = version) :
      StudentWrite read
        (.student (.updateStudent read (studentChange read studentUpdate)
          studentUpdate.versionId)) (studentChange read studentUpdate)
  | linkStudentToUser (userId : Id) (unlinked : read.userId = none) :
      StudentWrite read
        (.student (.updateStudent read (linkChange userId) none))
        (linkChange userId)
  | deleteUser (user : User) (linked : read.userId = some user.id) :
      StudentWrite read (.account (.deleteUser user (some read))) unlinkChange

inductive StudentEffect (before : Table Student.id) (label : Label) :
    Table Student.id → Prop where
  | unchanged : StudentEffect before label before
  | written (read : Student) (change : StudentChange)
      (computed : StudentWrite read label change)
      (current : before.find? read.id = some read) :
      StudentEffect before label
        (before.updateWhere (fun row => decide (row.id = read.id))
          (change.apply read.versionId) (change.apply_id read.versionId))
  | deleted (read : Student)
      (deletes : label = .student (.deleteStudent read))
      (current : before.find? read.id = some read) :
      StudentEffect before label (before.erase read.id)

/-- The same for one row: what became of it. -/
inductive RowStep (label : Label) : Option Student → Option Student → Prop where
  | kept (row : Option Student) : RowStep label row row
  | written (read : Student) (change : StudentChange)
      (computed : StudentWrite read label change) :
      RowStep label (some read) (some (change.apply read.versionId read))
  | deleted (read : Student)
      (deletes : label = .student (.deleteStudent read)) :
      RowStep label (some read) none

theorem StudentEffect.row {before after : Table Student.id} {label : Label}
    (effect : StudentEffect before label after) (studentId : Id) :
    RowStep label (before.find? studentId) (after.find? studentId) := by
  cases effect with
  | unchanged => exact .kept _
  | written read change computed current =>
      rw [Table.find?_updateWhere]
      by_cases target : studentId = read.id
      · subst target
        rw [current]
        simpa using RowStep.written read change computed
      · have same : (before.find? studentId).map (fun row =>
            if decide (row.id = read.id) then change.apply read.versionId row
            else row) = before.find? studentId := by
          cases found : before.find? studentId with
          | none => rfl
          | some row =>
              have key : row.id = studentId := Table.key_of_find? found
              simp [key, target]
        rw [same]
        exact .kept _
  | deleted read deletes current =>
      rw [Table.find?_erase]
      split
      · rename_i target
        subst target
        rw [current]
        exact .deleted read deletes
      · exact .kept _

/-! ## Progress -/

/-- Rows are never created, versions never fall, and a row that is met again
at the same version is the same row. -/
def Progress (before after : Table Student.id) : Prop :=
  ∀ studentId next, after.find? studentId = some next →
    ∃ row, before.find? studentId = some row ∧
      row.versionId ≤ next.versionId ∧
      (next.versionId = row.versionId → next = row)

theorem Progress.refl (table : Table Student.id) : Progress table table :=
  fun _ row found => ⟨row, found, le_refl _, fun _ => rfl⟩

theorem Progress.trans {first middle last : Table Student.id}
    (before : Progress first middle) (after : Progress middle last) :
    Progress first last := by
  intro studentId next found
  obtain ⟨row, rowFound, grows, same⟩ := after studentId next found
  obtain ⟨old, oldFound, further, sameOld⟩ := before studentId row rowFound
  refine ⟨old, oldFound, le_trans further grows, ?_⟩
  intro equal
  have rowVersion : row.versionId = old.versionId := by omega
  have nextVersion : next.versionId = row.versionId := by omega
  exact (same nextVersion).trans (sameOld rowVersion)

theorem RowStep.progress {label : Label} {row : Option Student}
    {next : Student} (step : RowStep label row (some next)) :
    ∃ old, row = some old ∧ old.versionId ≤ next.versionId ∧
      (next.versionId = old.versionId → next = old) := by
  cases step with
  | kept => exact ⟨next, rfl, le_refl _, fun _ => rfl⟩
  | written read change computed =>
      refine ⟨read, rfl, by simp, ?_⟩
      intro same
      simp at same

theorem StudentEffect.progress {before after : Table Student.id}
    {label : Label} (effect : StudentEffect before label after) :
    Progress before after := by
  intro studentId next found
  have step := effect.row studentId
  rw [found] at step
  exact step.progress

/-! ## Freshness of the cache -/

/-- A row at this version is not older than any of the writes. -/
def FreshFor (marks : List (Id × WriteMark)) (studentId : Id)
    (versionId : Nat) : Prop :=
  ∀ mark, (studentId, mark) ∈ marks → mark.allows versionId = true

@[simp] theorem allows_version {written versionId : Nat} :
    (WriteMark.version written).allows versionId = true ↔
      written ≤ versionId := decide_eq_true_iff

theorem allows_mono {mark : WriteMark} {versionId later : Nat}
    (allowed : mark.allows versionId = true) (grows : versionId ≤ later) :
    mark.allows later = true := by
  cases mark with
  | version written =>
      rw [allows_version] at allowed ⊢
      omega
  | deleted => cases allowed

theorem FreshFor.mono {marks : List (Id × WriteMark)} {studentId : Id}
    {versionId later : Nat} (fresh : FreshFor marks studentId versionId)
    (grows : versionId ≤ later) : FreshFor marks studentId later :=
  fun mark member => allows_mono (fresh mark member) grows

/-- Neither a row nor what a cached text says is older than a write that has
returned. -/
structure CacheFresh (libraries : Libraries) (store : Store) : Prop where
  rows : ∀ studentId row, (students store).find? studentId = some row →
    FreshFor store.returned studentId row.versionId
  entries : ∀ studentId entry response,
    store.cache studentId = some entry →
    libraries.loadStudent entry.json = some response →
    FreshFor store.returned studentId response.versionId

/-- What a cached text loads as is what was dumped. -/
def LoadsDumped (libraries : Libraries) : Prop :=
  ∀ response loaded,
    libraries.loadStudent (libraries.dumpStudent response) = some loaded →
    loaded = response

/-- The statement caches a response that was read before a write which has
already invalidated the cache. -/
def storesStale (label : Label) (store : Store) : Bool :=
  match label with
  | .student (.cacheSet studentId response) =>
      store.returned.any fun returned =>
        decide (returned.1 = studentId) &&
          !returned.2.allows response.versionId
  | _ => false

theorem freshFor_of_not_stale {studentId : Id} {response : StudentResponse}
    {store : Store}
    (notStale :
      storesStale (.student (.cacheSet studentId response)) store = false) :
    FreshFor store.returned studentId response.versionId := by
  intro mark member
  simp only [storesStale, List.any_eq_false] at notStale
  simpa using notStale (studentId, mark) member

/-! ## The discipline -/

/-- What every session may rely on between two of its statements. -/
structure Forward (before after : Store) : Prop where
  rows : Progress (students before) (students after)
  returned : before.returned ⊆ after.returned

theorem Forward.refl (store : Store) : Forward store store :=
  ⟨.refl _, List.Subset.refl _⟩

theorem Forward.trans {first middle last : Store}
    (before : Forward first middle) (after : Forward middle last) :
    Forward first last :=
  ⟨before.rows.trans after.rows,
    List.Subset.trans before.returned after.returned⟩

/-- `guarded` is the condition under which the discipline speaks of the cache
at all. -/
def studentDiscipline (libraries : Libraries) (guarded : Prop) :
    Discipline university where
  inv store := guarded → CacheFresh libraries store
  rely _ := Forward
  guar _ label _ before after :=
    StudentEffect (students before) label (students after) ∧
      before.returned ⊆ after.returned
  ok label choice store :=
    guarded → choice.redisUp = true ∧ storesStale label store = false
  rely_refl _ := Forward.refl
  rely_trans _ _ _ _ before after := before.trans after
  guar_rely _ guaranteed := ⟨guaranteed.1.progress, guaranteed.2⟩

theorem student_stutters (libraries : Libraries) (guarded : Prop) :
    Stutters (studentDiscipline libraries guarded) :=
  fun _ _ _ _ _ => ⟨.unchanged, List.Subset.refl _⟩

/-- The part of the store that student requests work on. -/
def studentView (store : Store) :
    Table Student.id × (Id → Option CacheEntry) × List (Id × WriteMark) :=
  (students store, store.cache, store.returned)

/-! ## What a session knows -/

/-- The row is as this session read it unless its version has moved on. -/
def Known (read : Student) (store : Store) : Prop :=
  ∀ row, (students store).find? read.id = some row →
    read.versionId ≤ row.versionId ∧
      (row.versionId = read.versionId → row = read)

theorem Known.of_found {studentId : Id} {read : Student} {store : Store}
    (found : (students store).find? studentId = some read) :
    Known read store := by
  intro row rowFound
  have key : read.id = studentId := Table.key_of_find? found
  rw [key, found] at rowFound
  cases rowFound
  exact ⟨le_refl _, fun _ => rfl⟩

theorem Known.forward {read : Student} {store later : Store}
    (known : Known read store) (forward : Forward store later) :
    Known read later := by
  intro row found
  obtain ⟨old, oldFound, grows, same⟩ := forward.rows read.id row found
  obtain ⟨oldGrows, oldSame⟩ := known old oldFound
  refine ⟨le_trans oldGrows grows, ?_⟩
  intro equal
  have oldVersion : old.versionId = read.versionId := by omega
  have rowVersion : row.versionId = old.versionId := by omega
  exact (same rowVersion).trans (oldSame oldVersion)

/-- A row that a write would apply to is the row that was read. -/
theorem Known.current {read row : Student} {store : Store}
    (known : Known read store)
    (found : (students store).find? read.id = some row)
    (version : row.versionId = read.versionId) :
    (students store).find? read.id = some read := by
  rw [found, (known row found).2 version]

/-- The write that leaves this mark has been committed. -/
def Settled (studentId : Id) (mark : WriteMark) (store : Store) : Prop :=
  ∀ row, (students store).find? studentId = some row →
    mark.allows row.versionId = true

theorem Settled.forward {studentId : Id} {mark : WriteMark}
    {store later : Store} (settled : Settled studentId mark store)
    (forward : Forward store later) : Settled studentId mark later := by
  intro row found
  obtain ⟨old, oldFound, grows, _⟩ := forward.rows studentId row found
  exact allows_mono (settled old oldFound) grows

/-! ## One step -/

section Step

variable {libraries : Libraries} {guarded : Prop} {label : Label}
  {store next : Store}

theorem CacheFresh.forward (fresh : CacheFresh libraries store)
    (forward : Forward store next) (cache : next.cache = store.cache)
    (returned : next.returned = store.returned) :
    CacheFresh libraries next := by
  refine ⟨?_, ?_⟩
  · intro studentId row found
    obtain ⟨old, oldFound, grows, _⟩ := forward.rows studentId row found
    rw [returned]
    exact (fresh.rows studentId old oldFound).mono grows
  · rw [cache, returned]
    exact fresh.entries

theorem CacheFresh.afterDelete {studentId : Id} {mark : WriteMark}
    (fresh : CacheFresh libraries store)
    (settled : Settled studentId mark store) :
    CacheFresh libraries { store with
      cache := fun other =>
        if other = studentId then none else store.cache other
      returned := (studentId, mark) :: store.returned } := by
  refine ⟨?_, ?_⟩
  · intro otherId row found otherMark member
    rcases List.mem_cons.mp member with same | earlier
    · cases same
      exact settled row found
    · exact fresh.rows otherId row found otherMark earlier
  · intro otherId entry response cached loaded otherMark member
    by_cases target : otherId = studentId
    · simp [target] at cached
    · simp only [if_neg target] at cached
      rcases List.mem_cons.mp member with same | earlier
      · cases same
        exact absurd rfl target
      · exact fresh.entries otherId entry response cached loaded otherMark
          earlier

theorem CacheFresh.afterSet (loads : LoadsDumped libraries) {studentId : Id}
    {response : StudentResponse} (expiresAt : Time)
    (fresh : CacheFresh libraries store)
    (stored : FreshFor store.returned studentId response.versionId) :
    CacheFresh libraries { store with
      cache := fun other =>
        if other = studentId then
          some ⟨libraries.dumpStudent response, expiresAt⟩
        else store.cache other } := by
  refine ⟨fresh.rows, ?_⟩
  intro otherId entry loaded cached dumped
  by_cases target : otherId = studentId
  · subst target
    simp only [if_true, Option.some.injEq] at cached
    subst cached
    rw [loads response loaded dumped]
    exact stored
  · simp only [if_neg target] at cached
    exact fresh.entries otherId entry loaded cached dumped

theorem table_step (me : Nat) (choice : Choice) (next : Store)
    (invariant : (studentDiscipline libraries guarded).inv store)
    (effect : StudentEffect (students store) label (students next))
    (cache : next.cache = store.cache)
    (returned : next.returned = store.returned) :
    (studentDiscipline libraries guarded).inv next ∧
      (studentDiscipline libraries guarded).guar me label choice store next ∧
      Forward store next := by
  have keeps : store.returned ⊆ next.returned := by
    rw [returned]
    exact List.Subset.refl _
  have forward : Forward store next := ⟨effect.progress, keeps⟩
  exact ⟨fun holds => (invariant holds).forward forward cache returned,
    ⟨effect, keeps⟩, forward⟩

end Step

end SystemUni.Students.Discipline
