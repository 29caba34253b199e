import SystemUni.Models.Rows
import SystemUni.Relational.Table

/-!
# The report job queue

The tables `job` and `report`, which no foreign key ties to the other tables.
`Table Report.jobId` is `UNIQUE(report.job_id)`.
-/

set_option autoImplicit false

namespace SystemUni.Models.Jobs

open Relational
open SystemUni.Runtime.Errors
open SystemUni.Models.Rows

/-- The texts the code writes into `job.status`; the column itself is free
text, and `other` is any text no operation writes. -/
inductive JobStatus where
  | queued
  | processing
  | completed
  | failed
  | other (text : String)
  deriving DecidableEq

structure Job where
  jobId : String
  jobVersion : Nat
  status : JobStatus
  ownerId : Id
  workerToken : Option String
  leaseUntil : Option Time
  reportType : String
  targetId : Id
  attemptCount : Nat
  retryAt : Option Time
  lastError : Option String
  createdAt : Time
  updatedAt : Time
  deriving DecidableEq

structure CourseRecord where
  enrollmentCode : String
  courseOfferingId : Id
  grade : Option Int
  isActive : Bool
  isWithdrawn : Bool
  deriving DecidableEq

def CourseRecord.ofRow (row : Enrollment) : CourseRecord where
  enrollmentCode := row.enrollmentCode
  courseOfferingId := row.courseOfferingId
  grade := row.grade
  isActive := row.isActive
  isWithdrawn := row.isWithdrawn

/-- The dictionary `generate_student_transcript` answers. -/
structure Transcript where
  studentId : Id
  name : String
  email : String
  departmentId : Id
  gpa : ℚ
  totalCourses : Nat
  courses : List CourseRecord
  deriving DecidableEq

structure Report where
  jobId : String
  result : Transcript
  deriving DecidableEq

structure ClaimedJob where
  jobId : String
  workerToken : String
  jobVersion : Nat
  deriving DecidableEq

/-- What held when a job was queued; kept for the specifications only. -/
structure Export where
  jobId : String
  ownerId : Id
  targetId : Id
  ownerRole : UserRole
  linkedUser : Option Id
  deriving DecidableEq

/-- `claims` and `exports` record the committed claims and exports, newest
first.  No statement reads them. -/
structure Queue where
  jobs : Table Job.jobId := .empty
  reports : Table Report.jobId := .empty
  claims : List ClaimedJob := []
  exports : List Export := []

end SystemUni.Models.Jobs
