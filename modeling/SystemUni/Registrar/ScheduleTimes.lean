import SystemUni.Crud.CourseSchedule
import SystemUni.Runtime.Rules

/-!
# Three checks of one order

The validators, `_ensure_time_order` and the `CHECK` constraint compare the
times of a schedule as parsed, as merged with the stored row and as stored.
-/

set_option autoImplicit false

namespace SystemUni.Registrar.ScheduleTimes

open Interleaving Relational
open SystemUni.Runtime.Errors
open SystemUni.Runtime.Statements
open SystemUni.Runtime.Rules
open SystemUni.Models.Rows
open SystemUni.Models.Schema
open SystemUni.Crud.User
open SystemUni.Crud.Rows
open SystemUni.Crud.CourseSchedule
open SystemUni.Routers.Main

/-! ## How rows are written -/

section Rows

variable {ρ : Type} {key : ρ → Id} {access : TableAccess key}
  {errors : WriteErrors} {me : Nat} {store : Store}

/-- A refused write leaves the database as it was and is answered with an error
of the client. -/
def RefusedWrite (store : Store) (exc : Exc) (later : Store) : Prop :=
  ClientError exc ∧ later.db = store.db

theorem finishes_handleWriteErrors {α : Type} {post : α → Store → Prop}
    (clients : ClientError errors.conflict ∧ ClientError errors.invalid)
    {exc : Exc} {later : Store} (kept : later.db = store.db)
    (handled : ∃ text, exc = .sql .integrityError text ∨
      exc = .sql .dataError text) :
    Finishes callSucceeds me (handleWriteErrors errors exc : Py α) post
      (RefusedWrite store) later := by
  obtain ⟨text, rfl | rfl⟩ := handled
  · exact finishes_bind (finishes_command fun _ _ =>
      finishes_throw _ ⟨clients.1, kept⟩)
  · exact finishes_bind (finishes_command fun _ _ =>
      finishes_throw _ ⟨clients.2, kept⟩)

theorem finishes_refreshRow {rowId : Id} {row : ρ} {later : Store}
    (found : (access.get later.db.tables).find? rowId = some row) :
    Finishes callSucceeds me (refreshRow access rowId)
      (fun answer after => answer = row ∧ after = later)
      (fun _ _ => False) later := by
  refine finishes_bind (finishes_query ?_)
  rw [found]
  exact finishes_pure row ⟨rfl, rfl⟩

theorem commit_refused {flush : Tables → Except SqlError Tables}
    {exc : Exc} (refused : store.commit flush = .error exc) :
    (∃ text, exc = .sql .integrityError text) ∨
      ∃ kind, flush store.db.tables = .error kind ∧
        exc = .sql kind kind.typeName := by
  unfold Store.commit Database.commit at refused
  cases flushed : flush store.db.tables with
  | error kind =>
      rw [flushed] at refused
      cases refused
      exact .inr ⟨kind, rfl, rfl⟩
  | ok tables =>
      simp only [flushed] at refused
      split at refused
      · rename_i db committed
        cases refused
      · rename_i kind failed
        cases refused
        split at failed
        · cases failed
        · cases failed
          exact .inl ⟨_, rfl⟩

theorem finishes_createRow
    (laws : ∀ rows tables, access.get (access.set rows tables) = rows)
    (clients : ClientError errors.conflict ∧ ClientError errors.invalid)
    {fits : ρ → Bool} {row : Choice → ρ} :
    Finishes callSucceeds me (createRow access fits errors row)
      (fun answer later => (∃ choice, answer = row choice) ∧
        (access.get later.db.tables).find? (key answer) = some answer)
      (RefusedWrite store) store := by
  refine finishes_tryCatch (finishes_bind (finishes_transaction ?_ ?_))
  · intro choice rowId next _ body
    obtain ⟨done, committed, becomes⟩ := mapped_ok body
    cases becomes
    obtain ⟨db, inserted, becomes⟩ := Store.commit_ok committed
    have isTables : ∃ fresh, db.tables = access.set
        ((access.get store.db.tables).insert (row choice) fresh)
        store.db.tables := by
      unfold insertRow at inserted
      split at inserted
      · cases inserted
      split at inserted
      · rename_i fresh
        exact ⟨fresh, (Except.ok.inj inserted).symm⟩
      · cases inserted
    obtain ⟨fresh, isTables⟩ := isTables
    have there : (access.get done.2.db.tables).find? (key (row choice)) =
        some (row choice) := by
      rw [becomes]
      change (access.get db.tables).find? _ = _
      rw [isTables, laws, Table.find?_insert, if_pos rfl]
    refine finishes_mono (finishes_refreshRow there) ?_
      fun _ _ raised => raised.elim
    rintro answer later ⟨rfl, rfl⟩
    exact ⟨⟨choice, rfl⟩, there⟩
  · intro choice exc _ body
    cases committed : store.commit (insertRow access fits (row choice)) with
    | ok done =>
        rw [committed] at body
        cases body
    | error kind =>
        rw [committed] at body
        cases body
        refine finishes_handleWriteErrors clients rfl ?_
        rcases commit_refused committed with ⟨text, isExc⟩ | ⟨kind, flushed, isExc⟩
        · exact ⟨text, .inl isExc⟩
        · unfold insertRow at flushed
          split at flushed
          · cases flushed
            exact ⟨_, .inr isExc⟩
          split at flushed
          · cases flushed
          · cases flushed
            exact ⟨_, .inl isExc⟩

def selected (access : TableAccess key) (rowId : Id) (tables : Tables) :
    Option ρ :=
  if fitsInteger rowId then (access.get tables).find? rowId else none

def updated (change : ρ → RowChange key) (row : ρ) : ρ :=
  if (change row).empty then row else (change row).apply row

theorem flushRow_updates
    (laws : ∀ rows tables, access.get (access.set rows tables) = rows)
    {change : ρ → RowChange key} {row : ρ} {rowId : Id} {tables after : Tables}
    (found : (access.get tables).find? rowId = some row)
    (flushed : flushRow access (key row) (change row) tables = .ok after) :
    (access.get after).find? (key (updated change row)) =
      some (updated change row) := by
  have isKey : key row = rowId := Table.key_of_find? found
  unfold flushRow at flushed
  unfold updated
  split at flushed
  · rename_i empty
    cases flushed
    rw [if_pos empty, isKey]
    exact found
  · rename_i dirtied
    rw [if_neg dirtied, (change row).same, isKey]
    split at flushed
    · cases flushed
    split at flushed
    · cases flushed
    · cases flushed
      rw [laws, Table.find?_updateWhere, found]
      simp

theorem flushRow_refuses {change : ρ → RowChange key} {row : ρ} {rowId : Id}
    {tables : Tables} {kind : SqlError}
    (found : (access.get tables).find? rowId = some row)
    (refused : flushRow access (key row) (change row) tables = .error kind) :
    kind = .dataError := by
  have isKey : key row = rowId := Table.key_of_find? found
  unfold flushRow at refused
  split at refused
  · cases refused
  split at refused
  · cases refused
    rfl
  split at refused
  · rename_i absent
    simp [isKey, found] at absent
  · cases refused

theorem finishes_updateRow
    (laws : ∀ rows tables, access.get (access.set rows tables) = rows)
    (clients : ClientError errors.conflict ∧ ClientError errors.invalid)
    {notFound : Exc} (missing : ClientError notFound)
    {change : ρ → RowChange key} {check : ρ → Except Exc Unit} {rowId : Id} :
    Finishes callSucceeds me
      (updateRow access notFound errors change check rowId)
      (fun answer later => ∃ row, selected access rowId store.db.tables =
          some row ∧ check row = .ok () ∧ answer = updated change row ∧
        (access.get later.db.tables).find? (key answer) = some answer)
      (fun exc later =>
        (RefusedWrite store exc later ∧
          ∀ row, selected access rowId store.db.tables = some row →
            check row = .ok ()) ∨
        later.db = store.db ∧ ∃ row,
          selected access rowId store.db.tables = some row ∧
          check row = .error exc) store := by
  refine finishes_bind (finishes_select (fun fits => ?_) fun misfit => ?_)
  · have isSelected : selected access rowId store.db.tables =
        (access.get store.db.tables).find? rowId := by
      rw [selected, if_pos fits]
    cases found : (access.get store.db.tables).find? rowId with
    | none =>
        refine finishes_throw _ (.inl ⟨⟨missing, rfl⟩, ?_⟩)
        intro row isRow
        rw [isSelected, found] at isRow
        cases isRow
    | some row =>
        rw [found] at isSelected
        dsimp only
        cases checked : check row with
        | error exc =>
            exact finishes_throw _ (.inr ⟨rfl, row, isSelected, checked⟩)
        | ok done =>
            refine finishes_tryCatch (finishes_bind
              (finishes_transaction ?_ ?_))
            · intro choice done next _ body
              obtain ⟨db, flushed, becomes⟩ := Store.commit_ok body
              have there := flushRow_updates laws found flushed
              have isKey : key (updated change row) = key row := by
                unfold updated
                split
                · rfl
                · exact (change row).same row
              have again : (access.get next.db.tables).find? (key row) =
                  some (updated change row) := by
                rw [becomes, ← isKey]
                exact there
              refine finishes_mono (finishes_refreshRow again) ?_ nofun
              rintro answer later ⟨rfl, rfl⟩
              exact ⟨row, isSelected, checked, rfl, isKey ▸ again⟩
            · intro choice exc _ body
              refine finishes_mono (finishes_handleWriteErrors clients rfl ?_)
                (fun _ _ returned => returned)
                fun _ _ refused => .inl ⟨refused, ?_⟩
              swap
              · intro other isOther
                rw [isSelected] at isOther
                cases isOther
                exact checked
              rcases commit_refused body with
                ⟨text, isExc⟩ | ⟨kind, flushed, isExc⟩
              · exact ⟨text, .inl isExc⟩
              · cases flushRow_refuses found flushed
                exact ⟨_, .inr isExc⟩
  · refine .inl ⟨⟨by decide, rfl⟩, ?_⟩
    intro row isRow
    rw [selected, if_neg (by simp [misfit])] at isRow
    cases isRow

end Rows

/-! ## Times -/

/-- `validate_time_range` and `_ensure_time_order` let the pair pass. -/
def Accepted (startTime endTime : ClockTime) : Prop :=
  endTime.le startTime = .ok false

instance (startTime endTime : ClockTime) :
    Decidable (Accepted startTime endTime) :=
  match same : endTime.le startTime with
  | .ok false => isTrue same
  | .ok true => isFalse (by simp [Accepted, same])
  | .error _ => isFalse (by simp [Accepted, same])

/-- Python can compare the pair: both times carry an offset or neither. -/
def Comparable (startTime endTime : ClockTime) : Prop :=
  startTime.utcOffset.isSome = endTime.utcOffset.isSome

instance (startTime endTime : ClockTime) :
    Decidable (Comparable startTime endTime) :=
  inferInstanceAs (Decidable (_ = _))

/-- The pair can be compared, and if it is in order it is so without the
offsets. -/
def OrderKept (startTime endTime : ClockTime) : Prop :=
  Comparable startTime endTime ∧
    (Accepted startTime endTime → startTime.time < endTime.time)

section Times

variable {startTime endTime : ClockTime}

theorem le_comparable (comparable : Comparable startTime endTime) :
    ∃ reversed, endTime.le startTime = .ok reversed := by
  unfold ClockTime.le
  unfold Comparable at comparable
  cases start : startTime.utcOffset with
  | none =>
      cases finish : endTime.utcOffset with
      | none => exact ⟨_, rfl⟩
      | some offset => simp [start, finish] at comparable
  | some offset =>
      cases finish : endTime.utcOffset with
      | none => simp [start, finish] at comparable
      | some offset => exact ⟨_, rfl⟩

/-- What comparing a time with an offset and one without raises. -/
def notComparable : Exc :=
  .other "TypeError" "can't compare offset-naive and offset-aware times"

theorem le_incomparable (mixed : ¬ Comparable startTime endTime) :
    endTime.le startTime = .error notComparable := by
  unfold ClockTime.le
  unfold Comparable at mixed
  cases start : startTime.utcOffset with
  | none =>
      cases finish : endTime.utcOffset with
      | none => simp [start, finish] at mixed
      | some offset => rfl
  | some offset =>
      cases finish : endTime.utcOffset with
      | none => rfl
      | some offset => simp [start, finish] at mixed

end Times

/-! ## The requests -/

/-- A request to create a schedule, from the times its schema parsed on. -/
def postCourseSchedule (courseSchedule : CourseScheduleCreate) :
    Py CourseSchedule :=
  match validateTimeRange (some courseSchedule.startTime)
      (some courseSchedule.endTime) with
  | .error exc => throw exc
  | .ok () => createCourseSchedule courseSchedule

def putCourseSchedule (update : CourseScheduleUpdate) (courseScheduleId : Id) :
    Py CourseSchedule :=
  match validateTimeRange update.startTime update.endTime with
  | .error exc => throw exc
  | .ok () => updateCourseSchedule update courseScheduleId

/-- The row that `update_course_schedule` loads. -/
def scheduleOf (courseScheduleId : Id) (tables : Tables) :
    Option CourseSchedule :=
  selected courseSchedules courseScheduleId tables

/-- The times that `update_course_schedule` compares. -/
def mergedStart (update : CourseScheduleUpdate) (row : CourseSchedule) :
    ClockTime := update.startTime.getD (stored row.startTime)

def mergedEnd (update : CourseScheduleUpdate) (row : CourseSchedule) :
    ClockTime := update.endTime.getD (stored row.endTime)

/-- The request ends: it is refused with a 4xx response and writes nothing, or
a row with these times is stored. -/
def RefusesOrStores (me : Nat) (store : Store) (request : Py CourseSchedule)
    (times : ClockTime → ClockTime → Prop) : Prop :=
  (∃ answer last, Evaluates (Condition.allowing callSucceeds) me request.run
    store answer last) ∧
  ∀ answer last, Evaluates (Condition.allowing callSucceeds) me request.run
    store answer last →
    match answer with
    | .error exc => RefusedWrite store exc last
    | .ok row =>
        last.db.tables.courseSchedules.find? row.id = some row ∧
        ∃ startTime endTime, times startTime endTime ∧
          row.startTime = startTime.time ∧ row.endTime = endTime.time

/-- The first two checks of a new schedule decide like the third. -/
def CreateAgrees (me : Nat) (store : Store)
    (courseSchedule : CourseScheduleCreate) : Prop :=
  RefusesOrStores me store (postCourseSchedule courseSchedule)
    (fun startTime endTime => startTime = courseSchedule.startTime ∧
      endTime = courseSchedule.endTime) ∧
  (Accepted courseSchedule.startTime courseSchedule.endTime →
    courseSchedule.startTime.time < courseSchedule.endTime.time)

/-- The first two checks of a changed schedule decide like the third. -/
def UpdateAgrees (me : Nat) (store : Store) (update : CourseScheduleUpdate)
    (courseScheduleId : Id) : Prop :=
  RefusesOrStores me store (putCourseSchedule update courseScheduleId)
    (fun startTime endTime => ∃ row,
      scheduleOf courseScheduleId store.db.tables = some row ∧
      startTime = mergedStart update row ∧ endTime = mergedEnd update row) ∧
  ∀ row, scheduleOf courseScheduleId store.db.tables = some row →
    Accepted (mergedStart update row) (mergedEnd update row) →
    (mergedStart update row).time < (mergedEnd update row).time

/-- When the checks of a changed schedule agree: two given times can be
compared, and the merged pair keeps its order. -/
def UpdateKept (update : CourseScheduleUpdate) (courseScheduleId : Id)
    (tables : Tables) : Prop :=
  (∀ startTime endTime, update.startTime = some startTime →
    update.endTime = some endTime → Comparable startTime endTime) ∧
  ∀ row, scheduleOf courseScheduleId tables = some row →
    OrderKept (mergedStart update row) (mergedEnd update row)

section Requests

variable {me : Nat} {store : Store}

theorem refusesOrStores_of_finishes {request : Py CourseSchedule}
    {times : ClockTime → ClockTime → Prop}
    (finishes : Finishes callSucceeds me request
      (fun row later =>
        later.db.tables.courseSchedules.find? row.id = some row ∧
        ∃ startTime endTime, times startTime endTime ∧
          row.startTime = startTime.time ∧ row.endTime = endTime.time)
      (RefusedWrite store) store) :
    RefusesOrStores me store request times := by
  obtain ⟨answer, last, runs, _⟩ := evaluates_of_finishes finishes {} rfl
  refine ⟨⟨answer, last, runs⟩, ?_⟩
  intro answer last runs
  have ends := runs.ensured (yields_of_finishes finishes)
  cases answer with
  | ok row => exact ends
  | error exc => exact ends

/-- A request that raises the `TypeError` is not refused with a 4xx
response. -/
theorem not_refusesOrStores {request : Py CourseSchedule}
    {times : ClockTime → ClockTime → Prop}
    (crashes : Finishes callSucceeds me request (fun _ _ => False)
      (fun exc _ => exc = notComparable) store) :
    ¬ RefusesOrStores me store request times := by
  rintro ⟨_, answers⟩
  obtain ⟨answer, last, runs, ends⟩ := evaluates_of_finishes crashes {} rfl
  have refused := answers answer last runs
  cases answer with
  | ok row => exact ends
  | error exc =>
      cases ends
      exact absurd refused.1 (by decide)

theorem checks_comparable {startTime endTime : ClockTime}
    (comparable : Comparable startTime endTime) :
    (Accepted startTime endTime ∧
      validateTimeRange (some startTime) (some endTime) = .ok () ∧
      ensureTimeOrder startTime endTime = .ok ()) ∨
    (∃ exc, ClientError exc ∧
      validateTimeRange (some startTime) (some endTime) = .error exc) ∧
      ensureTimeOrder startTime endTime = .error timeOrder := by
  obtain ⟨reversed, compared⟩ := le_comparable comparable
  cases reversed with
  | false =>
      refine .inl ⟨compared, ?_, ?_⟩
      · simp only [validateTimeRange, compared]
        rfl
      · simp only [ensureTimeOrder, compared]
        rfl
  | true =>
      refine .inr ⟨⟨requestValidationError
        "end_time must be strictly after start_time", by decide, ?_⟩, ?_⟩
      · simp only [validateTimeRange, compared]
        rfl
      · simp only [ensureTimeOrder, compared]
        rfl

theorem courseScheduleErrors_client :
    ClientError courseScheduleErrors.conflict ∧
      ClientError courseScheduleErrors.invalid := by decide

theorem createAgrees_iff {courseSchedule : CourseScheduleCreate} :
    CreateAgrees me store courseSchedule ↔
      OrderKept courseSchedule.startTime courseSchedule.endTime := by
  by_cases comparable :
    Comparable courseSchedule.startTime courseSchedule.endTime
  · refine ⟨fun agrees => ⟨comparable, agrees.2⟩, fun kept => ⟨?_, kept.2⟩⟩
    refine refusesOrStores_of_finishes ?_
    unfold postCourseSchedule
    rcases checks_comparable comparable with
      ⟨_, valid, ordered⟩ | ⟨⟨exc, client, invalid⟩, _⟩
    · rw [valid]
      unfold createCourseSchedule
      rw [ordered]
      refine finishes_mono (finishes_createRow (fun _ _ => rfl)
        courseScheduleErrors_client) ?_ fun _ _ refused => refused
      rintro row later ⟨⟨choice, rfl⟩, found⟩
      exact ⟨found, _, _, ⟨rfl, rfl⟩, rfl, rfl⟩
    · rw [invalid]
      exact finishes_throw _ ⟨client, rfl⟩
  · have crashes : validateTimeRange (some courseSchedule.startTime)
        (some courseSchedule.endTime) = .error notComparable := by
      simp only [validateTimeRange, le_incomparable comparable]
      rfl
    refine ⟨fun agrees => ?_, fun kept => absurd kept.1 comparable⟩
    refine absurd agrees.1 (not_refusesOrStores ?_)
    unfold postCourseSchedule
    rw [crashes]
    exact finishes_throw _ rfl

theorem assignedTime_getD (loaded : TimeOfDay) (given : Option ClockTime) :
    (assignedTime loaded given).getD loaded =
      (given.getD (stored loaded)).time := by
  cases given with
  | none => rfl
  | some time =>
      change (if stored loaded = time then none else some time.time).getD
        loaded = time.time
      split
      · rename_i same
        rw [← same]
        rfl
      · rfl

/-- An update stores the merged times without their offsets. -/
theorem updated_times (update : CourseScheduleUpdate) (row : CourseSchedule) :
    (updated (courseScheduleChange update) row).startTime =
        (mergedStart update row).time ∧
      (updated (courseScheduleChange update) row).endTime =
        (mergedEnd update row).time := by
  have start := assignedTime_getD row.startTime update.startTime
  have finish := assignedTime_getD row.endTime update.endTime
  unfold updated
  split
  · rename_i empty
    simp only [courseScheduleChange, Bool.and_eq_true,
      Option.isNone_iff_eq_none] at empty
    obtain ⟨⟨⟨⟨_, noStart⟩, noEnd⟩, _⟩, _⟩ := empty
    rw [noStart] at start
    rw [noEnd] at finish
    exact ⟨start, finish⟩
  · exact ⟨start, finish⟩

/-- The validator compares two times only where both are given. -/
theorem validateTimeRange_cases (update : CourseScheduleUpdate) :
    validateTimeRange update.startTime update.endTime = .ok () ∨
    ∃ startTime endTime, update.startTime = some startTime ∧
      update.endTime = some endTime ∧
      validateTimeRange update.startTime update.endTime =
        validateTimeRange (some startTime) (some endTime) := by
  cases start : update.startTime with
  | none => exact .inl rfl
  | some startTime =>
      cases finish : update.endTime with
      | none => exact .inl rfl
      | some endTime => exact .inr ⟨startTime, endTime, rfl, rfl, rfl⟩

theorem finishes_updateCourseSchedule (update : CourseScheduleUpdate)
    (courseScheduleId : Id) :
    Finishes callSucceeds me (updateCourseSchedule update courseScheduleId)
      (fun answer later => ∃ row,
        scheduleOf courseScheduleId store.db.tables = some row ∧
        ensureTimeOrder (mergedStart update row) (mergedEnd update row) =
          .ok () ∧
        answer = updated (courseScheduleChange update) row ∧
        later.db.tables.courseSchedules.find? answer.id = some answer)
      (fun exc later =>
        (RefusedWrite store exc later ∧
          ∀ row, scheduleOf courseScheduleId store.db.tables = some row →
            ensureTimeOrder (mergedStart update row) (mergedEnd update row) =
              .ok ()) ∨
        later.db = store.db ∧ ∃ row,
          scheduleOf courseScheduleId store.db.tables = some row ∧
          ensureTimeOrder (mergedStart update row) (mergedEnd update row) =
            .error exc) store :=
  finishes_updateRow (fun _ _ => rfl) courseScheduleErrors_client (by decide)

theorem crashes_update {update : CourseScheduleUpdate} {courseScheduleId : Id}
    {row : CourseSchedule}
    (valid : validateTimeRange update.startTime update.endTime = .ok ())
    (found : scheduleOf courseScheduleId store.db.tables = some row)
    (mixed : ¬ Comparable (mergedStart update row) (mergedEnd update row)) :
    Finishes callSucceeds me (putCourseSchedule update courseScheduleId)
      (fun _ _ => False) (fun exc _ => exc = notComparable) store := by
  have crashes : ensureTimeOrder (mergedStart update row)
      (mergedEnd update row) = .error notComparable := by
    simp only [ensureTimeOrder, le_incomparable mixed]
    rfl
  unfold putCourseSchedule
  rw [valid]
  refine finishes_mono (finishes_updateCourseSchedule update courseScheduleId)
    ?_ ?_
  · rintro answer later ⟨other, isOther, passes, _⟩
    rw [found] at isOther
    cases isOther
    rw [crashes] at passes
    cases passes
  · rintro exc later (⟨_, passes⟩ | ⟨_, other, isOther, raised⟩)
    · have passed := passes row found
      rw [crashes] at passed
      cases passed
    · rw [found] at isOther
      cases isOther
      rw [crashes] at raised
      exact (Except.error.inj raised).symm

theorem crashes_validator {update : CourseScheduleUpdate}
    {courseScheduleId : Id} {startTime endTime : ClockTime}
    (start : update.startTime = some startTime)
    (finish : update.endTime = some endTime)
    (mixed : ¬ Comparable startTime endTime) :
    Finishes callSucceeds me (putCourseSchedule update courseScheduleId)
      (fun _ _ => False) (fun exc _ => exc = notComparable) store := by
  have crashes : validateTimeRange update.startTime update.endTime =
      .error notComparable := by
    simp only [start, finish, validateTimeRange, le_incomparable mixed]
    rfl
  unfold putCourseSchedule
  rw [crashes]
  exact finishes_throw _ rfl

theorem refusesOrStores_update {update : CourseScheduleUpdate}
    {courseScheduleId : Id}
    (kept : UpdateKept update courseScheduleId store.db.tables) :
    RefusesOrStores me store (putCourseSchedule update courseScheduleId)
      (fun startTime endTime => ∃ row,
        scheduleOf courseScheduleId store.db.tables = some row ∧
        startTime = mergedStart update row ∧
        endTime = mergedEnd update row) := by
  refine refusesOrStores_of_finishes ?_
  have writes : validateTimeRange update.startTime update.endTime = .ok () →
      Finishes callSucceeds me (putCourseSchedule update courseScheduleId)
        (fun row later =>
          later.db.tables.courseSchedules.find? row.id = some row ∧
          ∃ startTime endTime, (∃ row,
            scheduleOf courseScheduleId store.db.tables = some row ∧
            startTime = mergedStart update row ∧
            endTime = mergedEnd update row) ∧
            row.startTime = startTime.time ∧ row.endTime = endTime.time)
        (RefusedWrite store) store := by
    intro valid
    unfold putCourseSchedule
    rw [valid]
    refine finishes_mono
      (finishes_updateCourseSchedule update courseScheduleId) ?_ ?_
    · rintro answer later ⟨row, isRow, _, rfl, found⟩
      obtain ⟨start, finish⟩ := updated_times update row
      exact ⟨found, _, _, ⟨row, isRow, rfl, rfl⟩, start, finish⟩
    · rintro exc later (⟨refused, _⟩ | ⟨same, row, isRow, raised⟩)
      · exact refused
      · rcases checks_comparable (kept.2 row isRow).1 with
          ⟨_, _, passes⟩ | ⟨_, refuses⟩
        · rw [passes] at raised
          cases raised
        · rw [refuses] at raised
          cases raised
          exact ⟨by decide, same⟩
  rcases validateTimeRange_cases update with
    valid | ⟨startTime, endTime, start, finish, validates⟩
  · exact writes valid
  · rcases checks_comparable (kept.1 startTime endTime start finish) with
      ⟨_, valid, _⟩ | ⟨⟨exc, client, invalid⟩, _⟩
    · exact writes (validates.trans valid)
    · unfold putCourseSchedule
      rw [validates, invalid]
      exact finishes_throw _ ⟨client, rfl⟩

theorem updateAgrees_iff {update : CourseScheduleUpdate}
    {courseScheduleId : Id} :
    UpdateAgrees me store update courseScheduleId ↔
      UpdateKept update courseScheduleId store.db.tables := by
  constructor
  · rintro ⟨answers, ordered⟩
    have given : ∀ startTime endTime, update.startTime = some startTime →
        update.endTime = some endTime → Comparable startTime endTime := by
      intro startTime endTime start finish
      by_contra mixed
      exact not_refusesOrStores (crashes_validator start finish mixed) answers
    refine ⟨given, ?_⟩
    intro row found
    refine ⟨?_, ordered row found⟩
    by_contra mixed
    rcases validateTimeRange_cases update with
      valid | ⟨startTime, endTime, start, finish, _⟩
    · exact not_refusesOrStores (crashes_update valid found mixed) answers
    · have comparable := given startTime endTime start finish
      simp only [mergedStart, mergedEnd, start, finish,
        Option.getD_some] at mixed
      exact mixed comparable
  · intro kept
    exact ⟨refusesOrStores_update kept,
      fun row found => (kept.2 row found).2⟩

end Requests

/-! ## The exact condition -/

/-- The checks of a schedule agree exactly on pairs of times that can be
compared and are in the same order without their offsets. -/
theorem schedule_checks_agree_iff (me : Nat) (store : Store) :
    (∀ courseSchedule : CourseScheduleCreate,
      CreateAgrees me store courseSchedule ↔
        OrderKept courseSchedule.startTime courseSchedule.endTime) ∧
    ∀ (update : CourseScheduleUpdate) (courseScheduleId : Id),
      UpdateAgrees me store update courseScheduleId ↔
        UpdateKept update courseScheduleId store.db.tables :=
  ⟨fun _ => createAgrees_iff, fun _ _ => updateAgrees_iff⟩

def hour (count : Nat) : TimeOfDay := count * 3600000000

/-- A course that meets from ten to eleven. -/
def scheduledTables : Tables :=
  { sampleTables with
    teachers := ⟨[⟨1, "Nora", 0, 1⟩], by decide⟩
    courses := ⟨[⟨1, "Analysis", "ANA", 0, some 1⟩], by decide⟩
    courseOfferings := ⟨[⟨1, 1, 1, "Fall", 2024, "A", 0⟩], by decide⟩
    courseSchedules :=
      ⟨[⟨1, "Mon", "Lecture", hour 10, hour 11, "R1", 1, 0⟩], by decide⟩ }

def scheduledStore : Store := { db := ⟨scheduledTables, by decide⟩ }

/-- A start with an offset, given alone, raises a `TypeError`; two times whose
offsets reverse them pass both checks and fail the constraint. -/
theorem schedule_checks_disagree :
    Finishes callSucceeds 0
      (putCourseSchedule { startTime := some ⟨hour 9, some 0⟩ } 1)
      (fun _ _ => False) (fun exc _ => exc = notComparable) scheduledStore ∧
    ¬ UpdateAgrees 0 scheduledStore { startTime := some ⟨hour 9, some 0⟩ } 1 ∧
    ¬ CreateAgrees 0 scheduledStore
      ⟨"Tue", "Lecture", ⟨hour 10, some (hour 2)⟩, ⟨hour 9, some 0⟩, "R1",
        1⟩ := by
  have crashes : Finishes callSucceeds 0
      (putCourseSchedule { startTime := some ⟨hour 9, some 0⟩ } 1)
      (fun _ _ => False) (fun exc _ => exc = notComparable) scheduledStore :=
    @crashes_update 0 scheduledStore { startTime := some ⟨hour 9, some 0⟩ } 1
      ⟨1, "Mon", "Lecture", hour 10, hour 11, "R1", 1, 0⟩ rfl rfl (by decide)
  refine ⟨crashes, fun agrees => not_refusesOrStores crashes agrees.1, ?_⟩
  intro agrees
  exact absurd (agrees.2 (by decide)) (by decide)

end SystemUni.Registrar.ScheduleTimes
