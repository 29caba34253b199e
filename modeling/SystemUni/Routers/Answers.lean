import SystemUni.Accounts.Sessions
import SystemUni.Students.Entries
import SystemUni.Students.StaleReads

/-!
# What reads answer

The endpoints that read, with their answers.  Whatever runs beside a request,
it is answered what its account may see, as it was in the database while the
request was served; only an administrator may be answered an older row of a
student, which then has been in the cache for less than a minute.
-/

set_option autoImplicit false

namespace SystemUni.Routers.Answers

open Interleaving Relational
open SystemUni.Runtime.Errors
open SystemUni.Runtime.External
open SystemUni.Runtime.Statements
open SystemUni.Runtime.Rules
open SystemUni.Runtime.Atomicity
open SystemUni.Models.Rows
open SystemUni.Models.Changes
open SystemUni.Models.Jobs
open SystemUni.Models.Schema
open SystemUni.Security.Auth
open SystemUni.Crud.User
open SystemUni.Crud.Rows
open SystemUni.Crud.Student
open SystemUni.Crud.Enrollment
open SystemUni.Crud.RegistrarRows
open SystemUni.Crud.CourseSchedule
open SystemUni.Services.Reports
open SystemUni.Accounts.Service
open SystemUni.Accounts.Writers
open SystemUni.Students.Discipline
open SystemUni.Students.Entries
open SystemUni.Routers.Reports
open SystemUni.Routers.Api
open SystemUni.Routers.Mediation
open SystemUni.Routers.Privilege
open SystemUni.Application

/-! ## The endpoints that read -/

inductive TableRead where
  | row (rowId : Id)
  | rows (skip limit : Nat)

def TableRead.Answer (ρ : Type) : TableRead → Type
  | .row _ => ρ
  | .rows _ _ => List ρ

def TableRead.program {ρ : Type} (one : Id → Py ρ)
    (many : Nat → Nat → Py (List ρ)) :
    (read : TableRead) → Py (read.Answer ρ)
  | .row rowId => one rowId
  | .rows skip limit => many skip limit

def TableRead.route {ι υ : Type} : TableRead → TableRoute ι υ
  | .row rowId => .read rowId
  | .rows skip limit => .list skip limit

inductive ReadRoute where
  | college (read : TableRead)
  | course (read : TableRead)
  | courseOffering (read : TableRead)
  | department (read : TableRead)
  | teacher (read : TableRead)
  | courseSchedule (read : TableRead)
  | enrollment (read : TableRead)
  | user (read : TableRead)
  | student (studentId : Id)
  | students (skip limit : Nat)
  | currentUser
  | currentStudent
  | transcript (studentId : Id)
  | jobStatus (jobId : String)

def ReadRoute.Answer : ReadRoute → Type
  | .college read => read.Answer College
  | .course read => read.Answer Course
  | .courseOffering read => read.Answer CourseOffering
  | .department read => read.Answer Department
  | .teacher read => read.Answer Teacher
  | .courseSchedule read => read.Answer CourseSchedule
  | .enrollment read => read.Answer Enrollment
  | .user read => read.Answer User
  | .student _ => StudentResponse
  | .students _ _ => List Student
  | .currentUser => User
  | .currentStudent => Student
  | .transcript _ => Transcript
  | .jobStatus _ => JobData

def ReadRoute.readers : ReadRoute → List UserRole
  | .college _ => authenticatedUser
  | .course _ => authenticatedUser
  | .courseOffering _ => authenticatedUser
  | .department _ => authenticatedUser
  | .teacher _ => authenticatedUser
  | .courseSchedule _ => authenticatedUser
  | .enrollment _ => adminOrUser
  | .user _ => [.admin]
  | .student _ => adminOrUser
  | .students _ _ => adminOrUser
  | .currentUser => authenticatedUser
  | .currentStudent => adminOrUser
  | .transcript _ => adminOrUser
  | .jobStatus _ => adminOrUser

/-- What is called for the user of the request. -/
def ReadRoute.handler (libraries : Libraries) (user : User) :
    (route : ReadRoute) → Py route.Answer
  | .college read => read.program readCollege readColleges
  | .course read => read.program readCourse readCourses
  | .courseOffering read =>
      read.program readCourseOffering readCourseOfferings
  | .department read => read.program readDepartment readDepartments
  | .teacher read => read.program readTeacher readTeachers
  | .courseSchedule read =>
      read.program readCourseSchedule readCourseSchedules
  | .enrollment read => read.program
      (fun enrollmentId => readEnrollment enrollmentId user)
      (readEnrollments user)
  | .user read => read.program readUser readUsers
  | .student studentId => readStudent libraries studentId user
  | .students skip limit => readStudents user skip limit
  | .currentUser => return user
  | .currentStudent => getCurrentStudentEndpoint user
  | .transcript studentId => Reports.getTranscript studentId user
  | .jobStatus jobId => Reports.getJobStatus jobId user

/-- The dependency that names the user. -/
def ReadRoute.requester (libraries : Libraries) (credentials : Option String) :
    ReadRoute → Py User
  | .currentUser => Security.Auth.getCurrentUser libraries credentials
  | .currentStudent => Security.Auth.getCurrentUser libraries credentials
  | route => requireRoles libraries route.readers credentials

def ReadRoute.program (libraries : Libraries) (credentials : Option String)
    (route : ReadRoute) : Py route.Answer := do
  let user ← route.requester libraries credentials
  route.handler libraries user

/-- The endpoint, of which `Route` only knows what it does. -/
def ReadRoute.route : ReadRoute → Route
  | .college read => .college read.route
  | .course read => .course read.route
  | .courseOffering read => .courseOffering read.route
  | .department read => .department read.route
  | .teacher read => .teacher read.route
  | .courseSchedule read => .courseSchedule read.route
  | .enrollment read => .enrollment read.route
  | .user read => .user read.route
  | .student studentId => .student (.read studentId)
  | .students skip limit => .student (.list skip limit)
  | .currentUser => .getCurrentUser
  | .currentStudent => .getCurrentStudent
  | .transcript studentId => .getTranscript studentId
  | .jobStatus jobId => .getJobStatus jobId

theorem silent_bind {α β : Type} (first : Py α) (second : α → Py β) :
    silent (first >>= second) = first >>= fun value => silent (second value) :=
  bind_assoc first second fun _ => pure ()

/-- Its answer dropped, the program is that of the endpoint. -/
theorem silent_program (libraries : Libraries) (settings : Settings)
    (credentials : Option String) (route : ReadRoute) :
    silent (route.program libraries credentials) =
      route.route.program libraries settings credentials := by
  have bound : silent (route.program libraries credentials) =
      route.requester libraries credentials >>=
        fun user => silent (route.handler libraries user) :=
    silent_bind _ _
  rw [bound]
  cases route with
  | college read => cases read <;> rfl
  | course read => cases read <;> rfl
  | courseOffering read => cases read <;> rfl
  | department read => cases read <;> rfl
  | teacher read => cases read <;> rfl
  | courseSchedule read => cases read <;> rfl
  | enrollment read => cases read <;> rfl
  | user read => cases read <;> rfl
  | student studentId => rfl
  | students skip limit => rfl
  | currentUser => rfl
  | currentStudent => rfl
  | transcript studentId => rfl
  | jobStatus jobId => rfl

/-! ## Genuine answers -/

/-- The row, or the page of the rows, as the tables were at a moment. -/
def TableRead.Genuine {ρ : Type} (key : ρ → Id) (moment : Moment)
    (rows : Tables → List ρ) : (read : TableRead) → read.Answer ρ → Prop
  | .row rowId, found => ∃ tables, Seen moment tables ∧
      found ∈ rows tables ∧ key found = rowId
  | .rows skip limit, listed => ∃ tables, Seen moment tables ∧
      listed = page key skip limit (rows tables)

/-- The job at one moment, its report at another. -/
def GenuineJob (moment : Moment) (jobId : String) (user : User)
    (data : JobData) : Prop :=
  ∃ polled reported job report,
    (∃ now tables, moment now (tables, polled)) ∧
    (∃ now tables, moment now (tables, reported)) ∧
    polled.jobs.find? jobId = some job ∧
    reported.reports.find? jobId = report ∧
    (user.role = .admin ∨ user.id = job.ownerId) ∧
    data = ⟨jobId, if report.isSome then .completed else job.status,
      job.ownerId, job.reportType, job.targetId,
      report.map fun report => report.result⟩

/-- What the user may be answered, having been read at moments `since`; for
students also what was stored in the cache at moments `ever`. -/
def ReadRoute.Genuine (ever since : Moment) (user : User) :
    (route : ReadRoute) → route.Answer → Prop
  | .college read => read.Genuine College.id since fun tables =>
      tables.colleges.rows
  | .course read => read.Genuine Course.id since fun tables =>
      tables.courses.rows
  | .courseOffering read => read.Genuine CourseOffering.id since fun tables =>
      tables.courseOfferings.rows
  | .department read => read.Genuine Department.id since fun tables =>
      tables.departments.rows
  | .teacher read => read.Genuine Teacher.id since fun tables =>
      tables.teachers.rows
  | .courseSchedule read => read.Genuine CourseSchedule.id since fun tables =>
      tables.courseSchedules.rows
  | .enrollment read => read.Genuine Enrollment.id since fun tables =>
      tables.enrollments.rows.filter (maySeeEnrollment user tables)
  | .user read => read.Genuine User.id since fun tables => tables.users.rows
  | .student studentId => fun response =>
      FromTable since studentId user response ∨ user.role = .admin ∧
        ∃ row stored now, Committed ever studentId row ∧ Ticked ever stored ∧
          Ticked since now ∧ now < stored + 60 ∧ response = .ofRow row
  | .students skip limit =>
      (TableRead.rows skip limit).Genuine Student.id since fun tables =>
        tables.students.rows.filter (maySee user)
  | .currentUser => fun answer => answer = user
  | .currentStudent => fun row => ∃ tables, Seen since tables ∧
      row ∈ tables.students.rows ∧ row.userId = some user.id
  | .transcript studentId => fun transcript =>
      (∃ student, Committed since studentId student ∧
        mayExport user student = true) ∧
      Workers.Provenance.Genuine (Seen since) studentId transcript
  | .jobStatus jobId => GenuineJob since jobId user

section Programs

variable {libraries : Libraries} {settings : Settings} {ever since : Moment}
  {credentials : Option String} {α β : Type}

/-- The request's account, since it began. -/
abbrev Asks (libraries : Libraries) (since : Moment)
    (credentials : Option String) (user : User) : Prop :=
  IsRequester (fun now tables => ∃ queue, since now (tables, queue)) libraries
    credentials user

theorem honest_getCurrentUser :
    StaysHonest libraries ever since
      (Security.Auth.getCurrentUser libraries credentials)
      (Asks libraries since credentials) :=
  settles_getCurrentUser honest_idles fun _ _ _ admitted => ⟨_, admitted.1⟩

theorem honest_requireRoles (allowed : List UserRole) :
    StaysHonest libraries ever since
      (requireRoles libraries allowed credentials) fun user =>
        Asks libraries since credentials user ∧ user.role ∈ allowed := by
  refine settles_bind (settles_mono honest_getCurrentUser ?_
    fun _ holds => holds)
  intro user asks
  split
  · exact settles_throw trivial
  · rename_i contained
    exact settles_pure ⟨asks, by simpa using contained⟩

/-- The endpoint of the current student refuses guests itself. -/
theorem honest_requester (route : ReadRoute) :
    StaysHonest libraries ever since
      (route.requester libraries credentials) fun user =>
        Asks libraries since credentials user ∧
          (user.role ∈ route.readers ∨ route = .currentStudent) := by
  have named (allowed : List UserRole) : StaysHonest libraries ever since
      (requireRoles libraries allowed credentials) fun user =>
        Asks libraries since credentials user ∧
          (user.role ∈ allowed ∨ route = .currentStudent) :=
    settles_mono (honest_requireRoles allowed)
      (fun _ asks => ⟨asks.1, .inl asks.2⟩) fun _ holds => holds
  cases route with
  | currentUser =>
      refine settles_mono honest_getCurrentUser ?_ fun _ holds => holds
      intro user asks
      refine ⟨asks, .inl ?_⟩
      cases user.role <;> decide
  | currentStudent =>
      exact settles_mono honest_getCurrentUser
        (fun _ asks => ⟨asks, .inr rfl⟩) fun _ holds => holds
  | college read => exact named _
  | course read => exact named _
  | courseOffering read => exact named _
  | department read => exact named _
  | teacher read => exact named _
  | courseSchedule read => exact named _
  | enrollment read => exact named _
  | user read => exact named _
  | student studentId => exact named _
  | students skip limit => exact named _
  | transcript studentId => exact named _
  | jobStatus jobId => exact named _

/-! ## Reading rows -/

theorem honest_selects {fits : Bool} {read : Store → α} {post : α → Prop}
    (returns : ∀ store, Seen since (committed store) → post (read store)) :
    StaysHonest libraries ever since (select fits read) post :=
  settles_select honest_idles
    (fun _ store admitted => returns store ⟨_, _, admitted.1⟩)
    fun _ => trivial

theorem honest_queries {read : Store → α} {post : α → Prop}
    (returns : ∀ store, Seen since (committed store) → post (read store)) :
    StaysHonest libraries ever since (query read) post :=
  settles_reads honest_idles
    (fun _ store admitted => returns store ⟨_, _, admitted.1⟩)
    fun _ => trivial

theorem honest_found {lookUp : Py (Option α)} {rest : Option α → Py α}
    {post : α → Prop}
    (looks : StaysHonest libraries ever since lookUp fun found =>
      ∀ value, found = some value → post value)
    (missing : StaysHonest libraries ever since (rest none) post)
    (present : ∀ value, rest (some value) = pure value) :
    StaysHonest libraries ever since (lookUp >>= rest) post := by
  refine settles_bind (settles_mono looks ?_ fun _ holds => holds)
  intro found isFound
  cases found with
  | none => exact missing
  | some value =>
      rw [present value]
      exact settles_pure (isFound value rfl)

variable {ρ : Type} {key : ρ → Id}

theorem honest_table (access : TableAccess key) (notFound : Exc)
    (read : TableRead) :
    StaysHonest libraries ever since
      (read.program (readRow access notFound) (readRows access))
      (read.Genuine key since fun tables => (access.get tables).rows) := by
  cases read with
  | row rowId =>
      refine honest_found (honest_selects fun store seen row found => ?_)
        (settles_throw trivial) fun _ => rfl
      exact ⟨_, seen, Table.mem_of_find? found, Table.key_of_find? found⟩
  | rows skip limit =>
      exact honest_selects fun store seen => ⟨_, seen, rfl⟩

/-! ## The handlers -/

theorem honest_user (read : TableRead) :
    StaysHonest libraries ever since (read.program readUser readUsers)
      (read.Genuine User.id since fun tables => tables.users.rows) := by
  cases read with
  | row userId =>
      refine honest_found (honest_selects fun store seen user found => ?_)
        (settles_throw trivial) fun _ => rfl
      exact ⟨_, seen, Table.mem_of_find? found, Table.key_of_find? found⟩
  | rows skip limit => exact honest_selects fun store seen => ⟨_, seen, rfl⟩

theorem honest_enrollment (user : User) (read : TableRead) :
    StaysHonest libraries ever since
      (read.program (fun enrollmentId => readEnrollment enrollmentId user)
        (readEnrollments user))
      (read.Genuine Enrollment.id since fun tables =>
        tables.enrollments.rows.filter (maySeeEnrollment user tables)) := by
  cases read with
  | row enrollmentId =>
      change StaysHonest libraries ever since
        (readEnrollment enrollmentId user) _
      unfold readEnrollment
      split
      · exact settles_throw trivial
      refine honest_found (honest_selects fun store seen row found => ?_)
        (settles_throw trivial) fun _ => rfl
      obtain ⟨isRow, visible⟩ := Option.filter_eq_some_iff.mp found
      exact ⟨_, seen,
        List.mem_filter.mpr ⟨Table.mem_of_find? isRow, visible⟩,
        Table.key_of_find? isRow⟩
  | rows skip limit =>
      change StaysHonest libraries ever since
        (readEnrollments user skip limit) _
      unfold readEnrollments
      split
      · exact settles_throw trivial
      · exact honest_selects fun store seen => ⟨_, seen, rfl⟩

theorem honest_students (user : User) (skip limit : Nat) :
    StaysHonest libraries ever since (readStudents user skip limit)
      ((TableRead.rows skip limit).Genuine Student.id since fun tables =>
        tables.students.rows.filter (maySee user)) := by
  unfold readStudents
  split
  · exact settles_throw trivial
  · exact honest_selects fun store seen => ⟨_, seen, rfl⟩

theorem honest_currentStudent (user : User) :
    StaysHonest libraries ever since (getCurrentStudentEndpoint user)
      fun row => user.role ∈ adminOrUser ∧ ∃ tables, Seen since tables ∧
        row ∈ tables.students.rows ∧ row.userId = some user.id := by
  unfold getCurrentStudentEndpoint
  split
  · exact settles_throw trivial
  · rename_i notGuest
    have mayRead : user.role ∈ adminOrUser := by
      cases role : user.role with
      | admin => decide
      | user => decide
      | guest => exact absurd role notGuest
    refine honest_found (honest_queries fun store seen row found => ?_)
      (settles_throw trivial) fun _ => rfl
    have linked := List.find?_some found
    exact ⟨mayRead, _, seen, List.mem_of_find?_eq_some found,
      of_decide_eq_true linked⟩

theorem honest_generates (studentId : Id) :
    StaysHonest libraries ever since (generateStudentTranscript studentId)
      fun found => ∀ transcript, found = some transcript →
        Workers.Provenance.Genuine (Seen since) studentId transcript := by
  have reads : StaysHonest libraries ever since
      (query fun store => store.db.tables.students.find? studentId)
      fun found => ∀ student, found = some student →
        Committed since studentId student :=
    honest_queries fun store seen student found => ⟨_, seen, found⟩
  refine settles_bind (settles_mono reads ?_ fun _ holds => holds)
  intro found isFound
  cases found with
  | none => exact settles_pure fun transcript same => nomatch same
  | some student =>
      obtain ⟨reading, seen, isStudent⟩ := isFound student rfl
      have lists : StaysHonest libraries ever since
          (query fun store => store.db.tables.enrollments.rows.filter
            fun row => decide (row.studentId = studentId))
          fun rows => ∃ listing, Seen since listing ∧
            rows = enrollmentsOf studentId listing :=
        honest_queries fun store seen => ⟨_, seen, rfl⟩
      refine settles_bind (settles_mono lists ?_ fun _ holds => holds)
      rintro rows ⟨listing, seenListing, rfl⟩
      refine honest_bind (honest_of_leaves leaves_observe) fun fault => ?_
      cases fault with
      | some exc => exact settles_throw trivial
      | none =>
          refine settles_pure fun transcript same => ?_
          cases Option.some.inj same
          exact ⟨reading, listing, student, seen, seenListing, isStudent, rfl⟩

theorem honest_transcript (studentId : Id) (user : User) :
    StaysHonest libraries ever since (Reports.getTranscript studentId user)
      fun transcript =>
        (∃ student, Committed since studentId student ∧
          mayExport user student = true) ∧
        Workers.Provenance.Genuine (Seen since) studentId transcript := by
  have reads : StaysHonest libraries ever since
      (select (fitsInteger studentId) fun store =>
        store.db.tables.students.find? studentId)
      fun found => ∀ student, found = some student →
        Committed since studentId student :=
    honest_selects fun store seen student found => ⟨_, seen, found⟩
  refine settles_bind (settles_mono reads ?_ fun _ holds => holds)
  intro found isFound
  cases found with
  | none => exact settles_throw trivial
  | some student =>
      by_cases may : mayExport user student = true
      · simp only [may, Bool.not_true, Bool.false_eq_true, if_false]
        refine honest_found (settles_mono (honest_generates studentId)
          (fun _ genuine transcript same => ?_) fun _ holds => holds)
          (settles_throw trivial) fun _ => rfl
        exact ⟨⟨student, isFound student rfl, may⟩, genuine transcript same⟩
      · simp only [may, Bool.not_false, if_true]
        exact settles_throw trivial

theorem honest_jobStatus (jobId : String) (user : User) :
    StaysHonest libraries ever since (Reports.getJobStatus jobId user)
      (GenuineJob since jobId user) := by
  have polls : StaysHonest libraries ever since
      (query fun store => store.queue.jobs.find? jobId)
      fun found => ∀ job, found = some job →
        ∃ polled, (∃ now tables, since now (tables, polled)) ∧
          polled.jobs.find? jobId = some job :=
    settles_reads honest_idles (fun choice store admitted job found =>
      ⟨store.queue, ⟨_, _, admitted.1⟩, found⟩) fun _ => trivial
  refine settles_bind (settles_mono polls ?_ fun _ holds => holds)
  intro found isFound
  cases found with
  | none => exact settles_throw trivial
  | some job =>
      obtain ⟨polled, seen, isJob⟩ := isFound job rfl
      simp only
      split
      · exact settles_throw trivial
      · rename_i admitted
        have may : user.role = .admin ∨ user.id = job.ownerId := by
          by_contra neither
          exact admitted (not_or.mp neither)
        have reads : StaysHonest libraries ever since
            (query fun store => store.queue.reports.find? jobId)
            fun report => ∃ reported,
              (∃ now tables, since now (tables, reported)) ∧
                reported.reports.find? jobId = report :=
          settles_reads honest_idles (fun choice store admitted =>
            ⟨store.queue, ⟨_, _, admitted.1⟩, rfl⟩) fun _ => trivial
        refine settles_bind (settles_mono reads ?_ fun _ holds => holds)
        rintro report ⟨reported, seenReport, isReport⟩
        exact settles_pure ⟨polled, reported, job, report, seen, seenReport,
          isJob, isReport, may, rfl⟩

theorem honest_handler (within : ∀ now db, since now db → ever now db)
    (loads : LoadsDumped libraries) (user : User) (route : ReadRoute) :
    StaysHonest libraries ever since (route.handler libraries user)
      fun value => route.Genuine ever since user value ∧
        (route = .currentStudent → user.role ∈ adminOrUser) := by
  have elsewhere (other : route ≠ .currentStudent)
      (answers : StaysHonest libraries ever since
        (route.handler libraries user) (route.Genuine ever since user)) :
      StaysHonest libraries ever since (route.handler libraries user)
        fun value => route.Genuine ever since user value ∧
          (route = .currentStudent → user.role ∈ adminOrUser) :=
    settles_mono answers (fun _ genuine => ⟨genuine, fun same =>
      absurd same other⟩) fun _ holds => holds
  cases route with
  | college read =>
      exact elsewhere nofun (honest_table colleges collegeNotFound read)
  | course read =>
      exact elsewhere nofun (honest_table courses courseNotFound read)
  | courseOffering read =>
      exact elsewhere nofun
        (honest_table courseOfferings
          Crud.RegistrarRows.courseOfferingNotFound read)
  | department read =>
      exact elsewhere nofun (honest_table departments departmentNotFound read)
  | teacher read =>
      exact elsewhere nofun (honest_table teachers teacherNotFound read)
  | courseSchedule read =>
      exact elsewhere nofun
        (honest_table courseSchedules courseScheduleNotFound read)
  | enrollment read => exact elsewhere nofun (honest_enrollment user read)
  | user read => exact elsewhere nofun (honest_user read)
  | student studentId =>
      refine elsewhere nofun (settles_mono
        (honest_readStudent within studentId user) ?_ fun _ holds => holds)
      rintro response (fromTable | ⟨isAdmin, row, stored, now, committed,
        ticked, clock, live, loaded⟩)
      · exact .inl fromTable
      · exact .inr ⟨isAdmin, row, stored, now, committed, ticked, clock, live,
          loads _ _ loaded⟩
  | students skip limit =>
      exact elsewhere nofun (honest_students user skip limit)
  | currentUser => exact elsewhere nofun (settles_pure rfl)
  | currentStudent =>
      exact settles_mono (honest_currentStudent user)
        (fun _ answer => ⟨answer.2, fun _ => answer.1⟩) fun _ holds => holds
  | transcript studentId =>
      exact elsewhere nofun (honest_transcript studentId user)
  | jobStatus jobId => exact elsewhere nofun (honest_jobStatus jobId user)

/-- The account may read this, and the answer is genuine. -/
def MayAnswer (libraries : Libraries) (ever since : Moment)
    (credentials : Option String) (route : ReadRoute) (value : route.Answer) :
    Prop :=
  ∃ user, Asks libraries since credentials user ∧
    user.role ∈ route.readers ∧ route.Genuine ever since user value

theorem honest_reads (within : ∀ now db, since now db → ever now db)
    (loads : LoadsDumped libraries) (route : ReadRoute) :
    StaysHonest libraries ever since (route.program libraries credentials)
      (MayAnswer libraries ever since credentials route) := by
  refine settles_bind (settles_mono (honest_requester route) ?_
    fun _ holds => holds)
  rintro user ⟨asks, role⟩
  refine settles_mono (honest_handler within loads user route) ?_
    fun _ holds => holds
  rintro value ⟨genuine, notGuest⟩
  refine ⟨user, asks, ?_, genuine⟩
  rcases role with allowed | here
  · exact allowed
  · have reads := notGuest here
    rw [here]
    exact reads

end Programs

/-! ## Runs in which reads answer -/

structure Answered where
  route : ReadRoute
  value : route.Answer

def ReadRoute.answered (libraries : Libraries) (credentials : Option String)
    (route : ReadRoute) : Py (Option Answered) := do
  let value ← getDb (route.program libraries credentials)
  return some ⟨route, value⟩

/-- A process whose answer is not looked at. -/
def unanswered (program : Prog university (Except Exc Unit)) :
    Prog university (Except Exc (Option Answered)) :=
  program.bind fun result => .ret (result.map fun _ => none)

/-- What may be started at any time. -/
inductive Reader (libraries : Libraries) (settings : Settings) :
    Prog university (Except Exc (Option Answered)) → Prop where
  | read (credentials : Option String) (route : ReadRoute) :
      Reader libraries settings (route.answered libraries credentials).run
  | process {program : Prog university (Except Exc Unit)}
      (process : Process libraries settings program) :
      Reader libraries settings (unanswered program)

/-- The application, the reads of which answer. -/
def answering (libraries : Libraries) (settings : Settings) :
    System university (Except Exc (Option Answered)) where
  start _ := Reader libraries settings
  code child := unanswered (heartbeat settings child).run

section Runs

variable {libraries : Libraries} {settings : Settings} {ever since : Moment}
  {credentials : Option String}

theorem honest_answered (within : ∀ now db, since now db → ever now db)
    (loads : LoadsDumped libraries) (route : ReadRoute) :
    StaysHonest libraries ever since (route.answered libraries credentials)
      fun found => ∀ value, found = some ⟨route, value⟩ →
        MayAnswer libraries ever since credentials route value := by
  refine settles_bind (settles_mono
    (honest_session (honest_reads within loads route)) ?_
    fun _ holds => holds)
  intro value answers
  refine settles_pure fun other same => ?_
  cases Option.some.inj same
  exact answers

theorem settles_unanswered {program : Prog university (Except Exc Unit)}
    (settles : program.Settles (honestScope libraries ever since)
      fun _ => True) :
    (unanswered program).Settles (honestScope libraries ever since)
      fun _ => True :=
  Prog.settles_bind program _
    (Prog.settles_mono program settles fun _ _ => trivial)

theorem answering_settles (loads : LoadsDumped libraries) :
    (answering libraries settings).Settles
      (honestScope libraries ever ever) where
  starts _ program reader := by
    cases reader with
    | read credentials route =>
        exact settles_answers
          (honest_answered (fun _ _ seen => seen) loads route)
    | process process =>
        exact settles_unanswered
          (settles_process (fun _ _ seen => seen) process)
  children child := settles_unanswered (settles_heartbeat child)

/-- In every run, whatever runs beside it and however its calls end: an answer
of an endpoint that reads is what the database held since the request began
and what its account may see; or, for an administrator who reads a student,
a row that was in the database before and is in the cache for less than a
minute. -/
theorem answers_are_genuine (libraries : Libraries) (settings : Settings)
    (loads : LoadsDumped libraries) (ever since : Moment)
    (within : ∀ now db, since now db → ever now db) (initial : Store)
    (honest : Honest libraries ever initial)
    (first last : Config university (Except Exc (Option Answered)))
    (reached : Reachable (answering libraries settings) (snapshots ever)
      initial first)
    (credentials : Option String) (route : ReadRoute) (thread : Nat)
    (reading : first.threads[thread]? =
      some (route.answered libraries credentials).run)
    (run : Run (answering libraries settings) (snapshots since) first last)
    (value : route.Answer)
    (answered : last.threads[thread]? =
      some (.ret (.ok (some ⟨route, value⟩)))) :
    MayAnswer libraries ever since credentials route value := by
  have settles := @answering_settles libraries settings ever loads
  obtain ⟨_, honestFirst, threads⟩ := settles.holding (fun _ _ _ seen => seen)
    reached (fun program member => nomatch member) honest
  obtain ⟨relying, _, _⟩ := settles.holding
    (fun _ choice store seen => within _ _ seen) run threads honestFirst
  obtain ⟨rest, here, ends⟩ := relying.thread_under
    (Prog.Settles (honestScope libraries ever since) _)
    (fun statement next me choice store ready admitted holds =>
      (holds me choice store ready admitted).2.2)
    (fun _ _ holds => holds) reading (honest_answered within loads route)
  rw [here] at answered
  cases Option.some.inj answered
  exact ends value rfl

/-! ## A cached answer -/

/-- The student has not changed. -/
def unchanged (_ : Time) (db : Tables × Queue) : Prop :=
  db.1.students.rows = [sampleStudent]

/-- Half a minute later, neither. -/
def unchangedLater (now : Time) (db : Tables × Queue) : Prop :=
  now = 30 ∧ unchanged now db

instance (now : Time) (db : Tables × Queue) : Decidable (unchanged now db) :=
  inferInstanceAs (Decidable (_ = _))

instance (now : Time) (db : Tables × Queue) :
    Decidable (unchangedLater now db) := inferInstanceAs (Decidable (_ ∧ _))

def unchangedCheck (_ : Label) (choice : Choice) (store : Store) : Bool :=
  decide (unchanged choice.now (database store))

def laterCheck (_ : Label) (choice : Choice) (store : Store) : Bool :=
  decide (unchangedLater choice.now (database store))

theorem unchangedCheck_snapshots (label : Label) (choice : Choice)
    (store : Store) (checked : unchangedCheck label choice store = true) :
    snapshots unchanged label choice store := by
  have seen : unchanged choice.now (database store) :=
    of_decide_eq_true checked
  exact seen

theorem laterCheck_snapshots (label : Label) (choice : Choice)
    (store : Store) (checked : laterCheck label choice store = true) :
    snapshots unchangedLater label choice store := by
  have seen : unchangedLater choice.now (database store) :=
    of_decide_eq_true checked
  exact seen

abbrev sampleAnswering : System university (Except Exc (Option Answered)) :=
  answering sampleLibraries .default

def sampleRead : Prog university (Except Exc (Option Answered)) :=
  ((ReadRoute.student 1).answered sampleLibraries (some "first")).run

def reading : Config university (Except Exc (Option Answered)) where
  store := Accounts.Sessions.adminStore
  threads := [sampleRead]

def stored : Config university (Except Exc (Option Answered)) :=
  reading.played sampleAnswering unchangedCheck (plain (List.replicate 7 0))

def rereading : Config university (Except Exc (Option Answered)) :=
  { stored with threads := stored.threads ++ [sampleRead] }

/-- This answer comes from the cache. -/
def reread : Config university (Except Exc (Option Answered)) :=
  rereading.played sampleAnswering laterCheck
    (List.replicate 5 ⟨1, { now := 30 }⟩)

theorem rereading_reachable :
    Reachable sampleAnswering (snapshots unchanged)
      Accounts.Sessions.adminStore rereading := by
  have sampleReader : Reader sampleLibraries .default sampleRead :=
    .read (some "first") (.student 1)
  have begins : Reachable sampleAnswering (snapshots unchanged)
      Accounts.Sessions.adminStore reading := by
    refine arrivals_run _ _ _ reading.threads ?_
    intro program member
    rw [List.mem_singleton.mp member]
    exact sampleReader
  have ends : Run sampleAnswering (snapshots unchanged) reading stored :=
    reading.played_run sampleAnswering unchangedCheck (snapshots unchanged)
      unchangedCheck_snapshots _ (by cbv)
  exact .step (begins.trans ends) (.arrive stored sampleRead sampleReader)
    trivial

theorem answers_are_genuine_cached :
    MayAnswer sampleLibraries unchanged unchangedLater (some "first")
      (.student 1) (StudentResponse.ofRow sampleStudent) :=
  answers_are_genuine sampleLibraries .default
    Students.StaleReads.loads_dumped unchanged unchangedLater
    (fun _ _ seen => seen.2) Accounts.Sessions.adminStore
    (fun _ _ cached => by cases cached) rereading reread rereading_reachable
    (some "first") (.student 1) stored.threads.length
    List.getElem?_concat_length
    (rereading.played_run sampleAnswering laterCheck (snapshots unchangedLater)
      laterCheck_snapshots _ (by cbv)) _ (by cbv)

end Runs

end SystemUni.Routers.Answers
