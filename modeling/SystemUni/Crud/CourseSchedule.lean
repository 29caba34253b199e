import SystemUni.Crud.Rows
import SystemUni.Routers.Main

/-!
# Course schedules

`app/crud/courseschedule.py` and the validators of
`app/schemas/courseschedule.py`.  A time in a request may carry a UTC offset;
the column drops it.
-/

set_option autoImplicit false

namespace SystemUni.Crud.CourseSchedule

open SystemUni.Runtime.Errors
open SystemUni.Runtime.Statements
open SystemUni.Models.Rows
open SystemUni.Models.Schema
open SystemUni.Crud.Deletion
open SystemUni.Crud.Rows
open SystemUni.Routers.Main

/-- `datetime.time`: the time on the clock and the offset from UTC, in
microseconds. -/
structure ClockTime where
  time : TimeOfDay
  utcOffset : Option Int := none
  deriving DecidableEq

/-- `first <= second`: two times with offsets are compared by their UTC values,
one with and one without cannot be compared. -/
def ClockTime.le (first second : ClockTime) : Except Exc Bool :=
  match first.utcOffset, second.utcOffset with
  | none, none => .ok (decide (first.time ≤ second.time))
  | some firstOffset, some secondOffset =>
      .ok (decide ((first.time : Int) - firstOffset ≤
        second.time - secondOffset))
  | _, _ =>
      .error (.other "TypeError"
        "can't compare offset-naive and offset-aware times")

structure CourseScheduleCreate where
  day : String
  scheduleType : String
  startTime : ClockTime
  endTime : ClockTime
  room : String
  courseOfferingId : Id

structure CourseScheduleUpdate where
  day : Option String := none
  scheduleType : Option String := none
  startTime : Option ClockTime := none
  endTime : Option ClockTime := none
  room : Option String := none
  courseOfferingId : Option Id := none

/-- `validate_time_range` of both schemas.  Pydantic makes its `ValueError` a
refused request and lets a `TypeError` through. -/
def validateTimeRange (startTime endTime : Option ClockTime) :
    Except Exc Unit :=
  match startTime, endTime with
  | some startTime, some endTime => do
      let reversed ← endTime.le startTime
      if reversed then
        throw (requestValidationError
          "end_time must be strictly after start_time")
  | _, _ => .ok ()

/-! ## Errors -/

def timeOrder : Exc :=
  .httpException 422 "end_time must be strictly after start_time"

def courseScheduleErrors : WriteErrors :=
  ⟨.httpException 409 "Schedule conflict or constraint violation",
    .httpException 422 "Invalid course schedule data"⟩

def courseScheduleNotFound : Exc :=
  .httpException 404 "Course schedule not found"

/-! ## The operations -/

def ensureTimeOrder (startTime endTime : ClockTime) : Except Exc Unit := do
  let reversed ← endTime.le startTime
  if reversed then throw timeOrder

def courseScheduleFits (row : CourseSchedule) : Bool :=
  fitsVarchar 10 row.day && fitsVarchar 10 row.scheduleType &&
    fitsVarchar 10 row.room && fitsInteger row.courseOfferingId

def createCourseSchedule (courseSchedule : CourseScheduleCreate) :
    Py CourseSchedule :=
  match ensureTimeOrder courseSchedule.startTime courseSchedule.endTime with
  | .error exc => throw exc
  | .ok () =>
      createRow courseSchedules courseScheduleFits courseScheduleErrors
        fun choice => ⟨choice.newId, courseSchedule.day,
          courseSchedule.scheduleType, courseSchedule.startTime.time,
          courseSchedule.endTime.time, courseSchedule.room,
          courseSchedule.courseOfferingId, choice.now⟩

def readCourseSchedule (courseScheduleId : Id) : Py CourseSchedule :=
  readRow courseSchedules courseScheduleNotFound courseScheduleId

def readCourseSchedules (skip limit : Nat) : Py (List CourseSchedule) :=
  readRows courseSchedules skip limit

/-- A stored time has no offset. -/
def stored (time : TimeOfDay) : ClockTime := ⟨time, none⟩

/-- What is assigned differs from the loaded time. -/
def assignedTime (loaded : TimeOfDay) (given : Option ClockTime) :
    Option TimeOfDay :=
  given.bind fun time =>
    if stored loaded = time then none else some time.time

def courseScheduleChange (update : CourseScheduleUpdate)
    (loaded : CourseSchedule) : RowChange CourseSchedule.id :=
  let day := assigned loaded.day update.day
  let scheduleType := assigned loaded.scheduleType update.scheduleType
  let startTime := assignedTime loaded.startTime update.startTime
  let endTime := assignedTime loaded.endTime update.endTime
  let room := assigned loaded.room update.room
  let courseOfferingId :=
    assigned loaded.courseOfferingId update.courseOfferingId
  { apply := fun row => { row with
      day := day.getD row.day
      scheduleType := scheduleType.getD row.scheduleType
      startTime := startTime.getD row.startTime
      endTime := endTime.getD row.endTime
      room := room.getD row.room
      courseOfferingId := courseOfferingId.getD row.courseOfferingId }
    same := fun _ => rfl
    empty := day.isNone && scheduleType.isNone && startTime.isNone &&
      endTime.isNone && room.isNone && courseOfferingId.isNone
    fits := day.all (fitsVarchar 10) && scheduleType.all (fitsVarchar 10) &&
      room.all (fitsVarchar 10) && courseOfferingId.all fitsInteger }

def updateCourseSchedule (update : CourseScheduleUpdate)
    (courseScheduleId : Id) : Py CourseSchedule :=
  updateRow courseSchedules courseScheduleNotFound courseScheduleErrors
    (courseScheduleChange update)
    (fun row =>
      ensureTimeOrder (update.startTime.getD (stored row.startTime))
        (update.endTime.getD (stored row.endTime)))
    courseScheduleId

/-- Nothing refers to a schedule. -/
def deleteCourseScheduleRow (courseScheduleId : Id) :
    RowDeletion CourseSchedule Unit where
  label _ := .registrar
  load tables := tables.courseSchedules.find? courseScheduleId
  notFound := courseScheduleNotFound
  dependents _ _ := ()
  flush courseSchedule _ tables := .ok { tables with
    courseSchedules := tables.courseSchedules.erase courseSchedule.id }
  referenced := .httpException 409
    "Cannot delete course schedule due to constraints"

def deleteCourseSchedule (courseScheduleId : Id) : Py String := do
  let _ ← deleteRow (deleteCourseScheduleRow courseScheduleId)
  return "Course schedule deleted successfully"

end SystemUni.Crud.CourseSchedule
