import SystemUni.Interleaving.Program
import SystemUni.Interleaving.System
import SystemUni.Interleaving.RelyGuarantee
import SystemUni.Models.Rows
import SystemUni.Relational.Table
import SystemUni.Models.Changes
import SystemUni.Models.Jobs
import SystemUni.Models.Schema
import SystemUni.Runtime.Rules
import SystemUni.Services.Reports
import SystemUni.Workers.Tasks
import SystemUni.Routers.Reports
import SystemUni.Workers.Runner
import SystemUni.Workers.Queue
import SystemUni.Workers.Execution
import SystemUni.Workers.Service
import SystemUni.Workers.Guarantees
import SystemUni.Runtime.External
import SystemUni.Security.Auth
import SystemUni.Crud.User
import SystemUni.Accounts.Discipline
import SystemUni.Accounts.Requests
import SystemUni.Workers.Frame
import SystemUni.Accounts.Service
import SystemUni.Accounts.LastAdmin
import SystemUni.Accounts.Revocation
import SystemUni.Crud.Deletion
import SystemUni.Crud.Student
import SystemUni.Students.Discipline
import SystemUni.Students.Requests
import SystemUni.Students.LostUpdates
import SystemUni.Students.StaleReads
import SystemUni.Crud.Registrar
import SystemUni.Registrar.Deletes
import SystemUni.Registrar.UserDeletes
import SystemUni.Registrar.Orphans
import SystemUni.Students.Frame
import SystemUni.Transcripts.Discipline
import SystemUni.Transcripts.Service
import SystemUni.Transcripts.Ownership
import SystemUni.Workers.Polling
import SystemUni.Workers.Failures
import SystemUni.Interleaving.Laws
import SystemUni.Students.Links
import SystemUni.Workers.Leases
import SystemUni.Crud.Enrollment
import SystemUni.Enrollments.Creation
import SystemUni.Enrollments.Concurrency
import SystemUni.Cli
import SystemUni.Accounts.Writers
import SystemUni.Accounts.Login
import SystemUni.Students.Writers
import SystemUni.Schemas.Validation
import SystemUni.Schemas.Readers
import SystemUni.Crud.CourseSchedule
import SystemUni.Crud.RegistrarRows
import SystemUni.Routers.Api
import SystemUni.Routers.Frame
import SystemUni.Routers.Access
import SystemUni.Students.Coherence
import SystemUni.Routers.Privilege
import SystemUni.Accounts.LastAdminGuard
import SystemUni.Workers.Backoff
import SystemUni.Workers.Claiming
import SystemUni.Workers.Overflow
import SystemUni.Students.RedisOutage
import SystemUni.Registrar.ScheduleTimes
import SystemUni.Enrollments.Outcomes
import SystemUni.Migrations.Versions
import SystemUni.Migrations.EnrollmentCodes
import SystemUni.Interleaving.Reactions
import SystemUni.Interleaving.Atomicity
import SystemUni.Interleaving.Resources
import SystemUni.Runtime.Atomicity
import SystemUni.Application
import SystemUni.Routers.Atomicity
import SystemUni.Accounts.Sessions
import SystemUni.Students.WriteConflicts
import SystemUni.Students.OwnRecords
import SystemUni.Workers.Heartbeats
import SystemUni.Workers.Settlement
import SystemUni.Workers.Reconciliation
import SystemUni.Services.Gpa
import SystemUni.Workers.Provenance
import SystemUni.Interleaving.Progress
import SystemUni.Workers.Draining
import SystemUni.Routers.Mediation
import SystemUni.Crud.Responses
import SystemUni.Routers.Responses
import SystemUni.Routers.Conformance
import SystemUni.Routers.Acknowledgement
import SystemUni.Accounts.Survival
import SystemUni.Routers.Answers
