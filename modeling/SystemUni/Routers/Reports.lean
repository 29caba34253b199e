import SystemUni.Workers.Tasks

/-!
# The report endpoints

`app/routers/reports.py`, from the point where the request's user has been
loaded.
-/

set_option autoImplicit false

namespace SystemUni.Routers.Reports

open Relational
open SystemUni.Runtime.Errors
open SystemUni.Runtime.Statements
open SystemUni.Models.Rows
open SystemUni.Models.Jobs
open SystemUni.Models.Schema
open SystemUni.Services.Reports

def studentNotFound : Exc := .httpException 404 "Student not found"

def jobNotFound : Exc := .httpException 404 "Job not found"

/-- Whether the user may export this student's transcript. -/
def mayExport (user : User) (student : Student) : Bool :=
  decide (user.role = .admin) || decide (student.userId = some user.id)

/-- `get_transcript_endpoint`. -/
def getTranscript (studentId : Id) (currentUser : User) : Py Transcript := do
  let student ← select (fitsInteger studentId) fun store =>
    store.db.tables.students.find? studentId
  match student with
  | none => throw studentNotFound
  | some student =>
      if !mayExport currentUser student then throw studentNotFound
      let transcript ← generateStudentTranscript studentId
      match transcript with
      | none => throw studentNotFound
      | some transcript => return transcript

/-- The row `Job(…)` becomes, with the defaults of the other columns. -/
def newJob (jobId : String) (ownerId targetId : Id) (now : Time) : Job where
  jobId := jobId
  jobVersion := 0
  status := .queued
  ownerId := ownerId
  workerToken := none
  leaseUntil := none
  reportType := "transcript"
  targetId := targetId
  attemptCount := 0
  retryAt := none
  lastError := none
  createdAt := now
  updatedAt := now

/-- The user linked to a student at this moment. -/
def linkedUser (tables : Tables) (studentId : Id) : Option Id :=
  (tables.students.find? studentId).bind fun student => student.userId

def exportRecord (jobId : String) (user : User) (targetId : Id)
    (tables : Tables) : Export where
  jobId := jobId
  ownerId := user.id
  targetId := targetId
  ownerRole := user.role
  linkedUser := linkedUser tables targetId

def enqueueJob (job : Job) (record : Export) (queue : Queue) :
    Except Exc Queue :=
  if fresh : queue.jobs.find? job.jobId = none then
    .ok { queue with
      jobs := queue.jobs.insert job fresh
      exports := record :: queue.exports }
  else .error (.sql .integrityError "UniqueViolation")

structure ExportResponse where
  message : String
  jobId : String
  studentId : Id
  status : JobStatus
  deriving DecidableEq

def exportTranscriptAsync (studentId : Id) (currentUser : User) :
    Py ExportResponse := do
  let student ← select (fitsInteger studentId) fun store =>
    store.db.tables.students.find? studentId
  match student with
  | none => throw studentNotFound
  | some student =>
      if !mayExport currentUser student then throw studentNotFound
      let jobId ← uuid4
      transaction (.queue .exportTranscript) fun choice store =>
        (enqueueJob (newJob jobId currentUser.id studentId choice.now)
          (exportRecord jobId currentUser studentId store.db.tables)
          store.queue).map fun queue => ((), { store with queue := queue })
      return ⟨"Report generation queued successfully", jobId, studentId,
        .queued⟩

structure JobData where
  jobId : String
  status : JobStatus
  ownerId : Id
  reportType : String
  targetId : Id
  result : Option Transcript
  deriving DecidableEq

def getJobStatus (jobId : String) (currentUser : User) : Py JobData := do
  let dbJob ← query fun store => store.queue.jobs.find? jobId
  match dbJob with
  | none => throw jobNotFound
  | some dbJob =>
      if currentUser.role ≠ .admin ∧ currentUser.id ≠ dbJob.ownerId then
        throw jobNotFound
      let report ← query fun store => store.queue.reports.find? jobId
      return {
        jobId := jobId
        status := if report.isSome then .completed else dbJob.status
        ownerId := dbJob.ownerId
        reportType := dbJob.reportType
        targetId := dbJob.targetId
        result := report.map fun report => report.result }

/-- A response of `get_job_status`. -/
inductive PollResponse where
  | shown (data : JobData)
  | refused (exc : Exc)
  deriving DecidableEq

end SystemUni.Routers.Reports
