import SystemUni.Routers.Api
import SystemUni.Runtime.Rules

/-!
# What a user sees

`Records` is all of the database that a request of a mere user is answered
from: the account, the student linked to it and this student's enrollments.
The answer of each endpoint is first stated on these records alone; the code is
then shown to give it, whatever else is stored.
-/

set_option autoImplicit false

namespace SystemUni.Students.OwnRecords

open Interleaving Relational
open SystemUni.Runtime.Errors
open SystemUni.Runtime.External
open SystemUni.Runtime.Statements
open SystemUni.Runtime.Rules
open SystemUni.Models.Rows
open SystemUni.Models.Changes
open SystemUni.Models.Jobs
open SystemUni.Models.Schema
open SystemUni.Security.Auth
open SystemUni.Services.Reports
open SystemUni.Crud.User
open SystemUni.Crud.Student
open SystemUni.Schemas.Fields
open SystemUni.Crud.Enrollment
open SystemUni.Routers.Reports
open SystemUni.Routers.Api

/-! ## The records and the answers they determine -/

structure Records where
  account : Option User
  student : Option Student
  enrollments : List Enrollment

def ownRecords (userId : Id) (tables : Tables) : Records :=
  let student := tables.students.rows.find? fun row =>
    decide (row.userId = some userId)
  { account := tables.users.find? userId
    student := student
    enrollments := tables.enrollments.rows.filter fun row =>
      student.any fun own => decide (row.studentId = own.id) }

/-- A value that its column does not hold. -/
def misfit : Exc := .sql .dataError SqlError.dataError.typeName

/-- Look a row up and answer from it. -/
def answerFrom {ρ α : Type} (fits : Bool) (row : Option ρ) (notFound : Exc)
    (answer : ρ → Except Exc α) : Except Exc α :=
  if fits then
    match row with
    | none => .error notFound
    | some row => answer row
  else .error misfit

namespace Records

variable (own : Records)

/-- The own student, if this is its number. -/
def studentById (studentId : Id) : Option Student :=
  own.student.filter fun row => decide (row.id = studentId)

def enrollmentById (enrollmentId : Id) : Option Enrollment :=
  own.enrollments.find? fun row => decide (row.id = enrollmentId)

/-- A row that the response schema refuses is not answered. -/
def readStudent (libraries : Libraries) (studentId : Id) :
    Except Exc StudentResponse :=
  answerFrom (fitsInteger studentId) (own.studentById studentId)
    Crud.Student.studentNotFound fun student =>
      if studentResponse libraries.emailStr student then .ok (.ofRow student)
      else .error validationError

def readStudents (skip limit : Nat) : Except Exc (List Student) :=
  if fitsInteger skip && fitsInteger limit then
    .ok (page Student.id skip limit own.student.toList)
  else .error misfit

def readEnrollment (enrollmentId : Id) : Except Exc Enrollment :=
  answerFrom (fitsInteger enrollmentId) (own.enrollmentById enrollmentId)
    enrollmentNotFound .ok

def readEnrollments (skip limit : Nat) : Except Exc (List Enrollment) :=
  if fitsInteger skip && fitsInteger limit then
    .ok (page Enrollment.id skip limit own.enrollments)
  else .error misfit

def currentStudent : Except Exc Student :=
  match own.student with
  | none => .error studentRecordNotFound
  | some student => .ok student

/-- `fault` is what the computation of a transcript raises, if anything. -/
def transcript (fault : Option Exc) (studentId : Id) : Except Exc Transcript :=
  answerFrom (fitsInteger studentId) (own.studentById studentId)
    Routers.Reports.studentNotFound fun student =>
      match fault with
      | some exc => .error exc
      | none => .ok (transcriptOf student own.enrollments)

/-- Whether an export is accepted. -/
def exports (studentId : Id) : Except Exc Unit :=
  answerFrom (fitsInteger studentId) (own.studentById studentId)
    Routers.Reports.studentNotFound fun _ => .ok ()

/-- What `get_current_user` makes of a token of the account that carries this
version, or of a token that does not decode. -/
def requester (credentials : Option String) (version : Option Int) :
    Except Exc User :=
  match credentials, version with
  | none, _ => .error notAuthenticated
  | some _, none => .error invalidToken
  | some _, some tokenVersion => admitUser own.account tokenVersion

end Records

/-! ## The queries of a user find the own records -/

section Queries

variable {user : User} {database : Database}

theorem maySee_user (mere : user.role = .user) :
    maySee user = fun row => decide (row.userId = some user.id) := by
  funext row
  simp [maySee, mere]

theorem students_seen (mere : user.role = .user) :
    database.tables.students.rows.filter (maySee user) =
      (ownRecords user.id database.tables).student.toList := by
  rw [maySee_user mere]
  exact database.admissible.student.2.1.filter_eq user.id

theorem student_seen (mere : user.role = .user) (studentId : Id) :
    (database.tables.students.find? studentId).filter (maySee user) =
      (ownRecords user.id database.tables).studentById studentId := by
  rw [Table.find?_filter, students_seen mere]
  unfold Records.studentById
  cases (ownRecords user.id database.tables).student with
  | none => rfl
  | some student =>
      by_cases wanted : student.id = studentId
      · simp [Option.filter, wanted]
      · simp [Option.filter, wanted]

/-- An enrollment joins the own student exactly when it is this student's. -/
theorem maySeeEnrollment_user (mere : user.role = .user) (row : Enrollment) :
    maySeeEnrollment user database.tables row =
      (ownRecords user.id database.tables).student.any fun own =>
        decide (row.studentId = own.id) := by
  have joined : maySeeEnrollment user database.tables row =
      ((database.tables.students.find? row.studentId).filter
        (maySee user)).isSome := by
    rw [maySee_user mere, Option.isSome_filter]
    simp [maySeeEnrollment, mere]
  rw [joined, student_seen mere]
  unfold Records.studentById
  rw [Option.isSome_filter]
  congr 1
  funext own
  exact decide_eq_decide.mpr eq_comm

theorem enrollments_seen (mere : user.role = .user) :
    database.tables.enrollments.rows.filter
        (maySeeEnrollment user database.tables) =
      (ownRecords user.id database.tables).enrollments := by
  have same : maySeeEnrollment user database.tables = fun row =>
      (ownRecords user.id database.tables).student.any fun own =>
        decide (row.studentId = own.id) :=
    funext fun row => maySeeEnrollment_user mere row
  rw [same]
  rfl

theorem enrollment_seen (mere : user.role = .user) (enrollmentId : Id) :
    (database.tables.enrollments.find? enrollmentId).filter
        (maySeeEnrollment user database.tables) =
      (ownRecords user.id database.tables).enrollmentById enrollmentId := by
  rw [Table.find?_filter, enrollments_seen mere]
  rfl

theorem mayExport_user (mere : user.role = .user) :
    mayExport user = maySee user := by
  rw [maySee_user mere]
  funext student
  simp [mayExport, mere]

theorem enrollments_of_student {studentId : Id} {student : Student}
    (found : (ownRecords user.id database.tables).studentById studentId =
      some student) :
    enrollmentsOf studentId database.tables =
      (ownRecords user.id database.tables).enrollments := by
  obtain ⟨isOwn, wanted⟩ := Option.filter_eq_some_iff.mp found
  have isWanted : student.id = studentId := of_decide_eq_true wanted
  change _ = database.tables.enrollments.rows.filter fun row =>
    (ownRecords user.id database.tables).student.any fun own =>
      decide (row.studentId = own.id)
  rw [isOwn]
  simp [isWanted, enrollmentsOf]

end Queries

/-! ## The code gives these answers -/

/-- Alone, the request comes to an end with this answer, whatever allowed
choices are made. -/
def Gives {α : Type} (allowed : Choice → Prop) (request : Py α)
    (answer : Except Exc α) (store : Store) : Prop :=
  ∀ me, Finishes allowed me request (fun value _ => .ok value = answer)
    (fun exc _ => .error exc = answer) store

section Endpoints

variable {allowed : Choice → Prop} [Answered allowed] {user : User}
  {store : Store}

theorem gives_readStudent {libraries : Libraries} (mere : user.role = .user)
    (studentId : Id) :
    Gives allowed (readStudent libraries studentId user)
      ((ownRecords user.id store.db.tables).readStudent libraries studentId)
      store := by
  intro me
  refine finishes_bind (finishes_command fun choice _ => ?_)
  rw [if_neg (by simp [mere])]
  have uncached (redis : Bool) :
      (decide (user.role = .admin) && redis) = false := by simp [mere]
  rw [uncached]
  refine finishes_bind (finishes_pure _ (finishes_bind (finishes_select
    (fun fits => ?_) fun unfit => ?_)))
  · rw [student_seen mere]
    unfold Records.readStudent answerFrom
    rw [if_pos fits]
    cases (ownRecords user.id store.db.tables).studentById studentId with
    | none => exact finishes_throw _ rfl
    | some student =>
        simp only [modelValidate_bind]
        split
        · exact finishes_pure _ rfl
        · exact finishes_throw _ rfl
  · exact (if_neg (by simp [unfit])).symm

theorem gives_readStudents (mere : user.role = .user) (skip limit : Nat) :
    Gives allowed (readStudents user skip limit)
      ((ownRecords user.id store.db.tables).readStudents skip limit)
      store := by
  intro me
  unfold readStudents
  rw [if_neg (by simp [mere])]
  refine finishes_select (fun fits => ?_) fun unfit => ?_
  · rw [students_seen mere]
    exact (if_pos fits).symm
  · exact (if_neg (by simp [unfit])).symm

theorem gives_readEnrollment (mere : user.role = .user) (enrollmentId : Id) :
    Gives allowed (readEnrollment enrollmentId user)
      ((ownRecords user.id store.db.tables).readEnrollment enrollmentId)
      store := by
  intro me
  unfold readEnrollment
  rw [if_neg (by simp [mere])]
  refine finishes_bind (finishes_select (fun fits => ?_) fun unfit => ?_)
  · rw [enrollment_seen mere]
    unfold Records.readEnrollment answerFrom
    rw [if_pos fits]
    cases (ownRecords user.id store.db.tables).enrollmentById enrollmentId with
    | none => exact finishes_throw _ rfl
    | some enrollment => exact finishes_pure _ rfl
  · exact (if_neg (by simp [unfit])).symm

theorem gives_readEnrollments (mere : user.role = .user) (skip limit : Nat) :
    Gives allowed (readEnrollments user skip limit)
      ((ownRecords user.id store.db.tables).readEnrollments skip limit)
      store := by
  intro me
  unfold readEnrollments
  rw [if_neg (by simp [mere])]
  refine finishes_select (fun fits => ?_) fun unfit => ?_
  · rw [enrollments_seen mere]
    exact (if_pos fits).symm
  · exact (if_neg (by simp [unfit])).symm

theorem gives_getCurrentStudentEndpoint (mere : user.role = .user) :
    Gives allowed (getCurrentStudentEndpoint user)
      (ownRecords user.id store.db.tables).currentStudent store := by
  intro me
  unfold getCurrentStudentEndpoint
  rw [if_neg (by simp [mere])]
  refine finishes_bind (finishes_query ?_)
  have isOwn : (store.db.tables.students.rows.find? fun row =>
      decide (row.userId = some user.id)) =
      (ownRecords user.id store.db.tables).student := rfl
  rw [isOwn]
  unfold Records.currentStudent
  cases (ownRecords user.id store.db.tables).student with
  | none => exact finishes_throw _ rfl
  | some student => exact finishes_pure _ rfl

/-- The student the report endpoints go on with is the own one. -/
theorem studentById_eq_filter (mere : user.role = .user) (studentId : Id) :
    (ownRecords user.id store.db.tables).studentById studentId =
      (store.db.tables.students.find? studentId).filter (mayExport user) := by
  rw [mayExport_user mere, student_seen mere]

/-- Both report endpoints look the student up and go on with the own one. -/
theorem finishes_ownStudent {α : Type} {rest : Student → Py α}
    {post : α → Store → Prop} {fail : Exc → Store → Prop} {me : Nat}
    (mere : user.role = .user) (studentId : Id)
    (goesOn : ∀ student, fitsInteger studentId = true →
      store.db.tables.students.find? studentId = some student →
      (ownRecords user.id store.db.tables).studentById studentId =
        some student → Finishes allowed me (rest student) post fail store)
    (unseen : fitsInteger studentId = true →
      (ownRecords user.id store.db.tables).studentById studentId = none →
      fail Routers.Reports.studentNotFound store)
    (unfit : fitsInteger studentId = false → fail misfit store) :
    Finishes allowed me
      (do
        let student ← select (fitsInteger studentId) fun store =>
          store.db.tables.students.find? studentId
        match student with
        | none => throw Routers.Reports.studentNotFound
        | some student =>
            if !mayExport user student then
              throw Routers.Reports.studentNotFound
            rest student)
      post fail store := by
  refine finishes_bind (finishes_select (fun fits => ?_) unfit)
  have isOwn : (ownRecords user.id store.db.tables).studentById studentId =
      (store.db.tables.students.find? studentId).filter (mayExport user) :=
    studentById_eq_filter mere studentId
  cases found : store.db.tables.students.find? studentId with
  | none =>
      rw [found] at isOwn
      exact finishes_throw _ (unseen fits isOwn)
  | some student =>
      rw [found] at isOwn
      dsimp only
      by_cases may : mayExport user student = true
      · rw [Option.filter_some_pos may] at isOwn
        rw [if_neg (by simp [may])]
        exact goesOn student fits found isOwn
      · have refused : mayExport user student = false := by simpa using may
        rw [Option.filter_some_neg refused] at isOwn
        rw [if_pos (by simp [refused])]
        exact finishes_bind (finishes_throw _ (unseen fits isOwn))

theorem gives_getTranscript {fault : Option Exc} (mere : user.role = .user)
    (studentId : Id)
    (ends : ∀ choice, allowed choice → choice.fault = fault) :
    Gives allowed (Routers.Reports.getTranscript studentId user)
      ((ownRecords user.id store.db.tables).transcript fault studentId)
      store := by
  intro me
  unfold Records.transcript answerFrom
  refine finishes_ownStudent mere studentId ?_ ?_ ?_
  · intro student fits found isOwn
    rw [if_pos fits, isOwn]
    refine finishes_bind (finishes_bind (finishes_query ?_))
    rw [found]
    refine finishes_bind (finishes_query ?_)
    refine finishes_bind (finishes_command fun choice allows => ?_)
    rw [ends choice allows, enrollments_of_student isOwn]
    cases fault with
    | none => exact finishes_pure _ (finishes_pure _ rfl)
    | some exc => exact finishes_throw _ rfl
  · intro fits none
    rw [if_pos fits, none]
  · intro unfit
    rw [if_neg (by simp [unfit])]

def Fresh (choice : Choice) (store : Store) : Prop :=
  store.queue.jobs.find? choice.uuid = none

theorem gives_exportTranscriptAsync (mere : user.role = .user)
    (studentId : Id) (fresh : ∀ choice, allowed choice → Fresh choice store) :
    Gives allowed
      (silent (Routers.Reports.exportTranscriptAsync studentId user))
      ((ownRecords user.id store.db.tables).exports studentId) store := by
  intro me
  unfold Records.exports answerFrom
  refine finishes_bind (finishes_ownStudent mere studentId ?_ ?_ ?_)
  · intro student fits _ isOwn
    rw [if_pos fits, isOwn]
    refine finishes_bind (finishes_command fun drawn allows => ?_)
    have isNew : store.queue.jobs.find? drawn.uuid = none :=
      fresh drawn allows
    refine finishes_bind (finishes_transaction ?_ ?_)
    · intro choice value next _ _
      exact finishes_pure _ (finishes_pure _ rfl)
    · intro choice exc _ refused
      unfold enqueueJob newJob at refused
      rw [dif_pos isNew] at refused
      cases refused
  · intro fits none
    rw [if_pos fits, none]
  · intro unfit
    rw [if_neg (by simp [unfit])]

end Endpoints

/-! ## The requester -/

/-- The token, if there is one, either does not decode or names this account
at this version. -/
def Names (libraries : Libraries) (credentials : Option String) (userId : Id)
    (version : Option Int) (choice : Choice) : Prop :=
  ∀ token, credentials = some token →
    decodeAccessToken libraries choice.now token =
      version.map fun tokenVersion => (userId, tokenVersion)

theorem admitUser_ok {user current : User} {tokenVersion : Int}
    (admitted : admitUser (some user) tokenVersion = .ok current) :
    user = current := by
  unfold admitUser at admitted
  dsimp only at admitted
  split at admitted
  · cases admitted
  · exact Except.ok.inj admitted

section Requester

variable {libraries : Libraries} {allowed : Choice → Prop} [Answered allowed]
  {credentials : Option String} {version : Option Int} {user : User} {me : Nat}
  {store : Store}

theorem finishes_getCurrentUser
    (account : (ownRecords user.id store.db.tables).account = some user)
    (names : ∀ choice, allowed choice →
      Names libraries credentials user.id version choice) :
    Finishes allowed me (Security.Auth.getCurrentUser libraries credentials)
      (fun current later => later = store ∧ current = user ∧
        (ownRecords user.id store.db.tables).requester credentials version =
          .ok user)
      (fun exc _ =>
        (ownRecords user.id store.db.tables).requester credentials version =
          .error exc) store := by
  cases credentials with
  | none => exact finishes_throw _ rfl
  | some token =>
      refine finishes_bind (finishes_command fun choice allows => ?_)
      have decoded := names choice allows token rfl
      change Finishes allowed me (checkToken libraries choice.now token) _ _
        store
      unfold checkToken
      rw [decoded]
      cases version with
      | none => exact finishes_throw _ rfl
      | some tokenVersion =>
          refine finishes_bind (finishes_query ?_)
          have loaded : store.db.tables.users.find? user.id =
              (ownRecords user.id store.db.tables).account := rfl
          rw [loaded]
          cases admitted : admitUser (ownRecords user.id
              store.db.tables).account tokenVersion with
          | error exc => exact finishes_throw _ admitted
          | ok current =>
              have isUser : current = user := by
                rw [account] at admitted
                exact (admitUser_ok admitted).symm
              subst isUser
              exact finishes_pure _ ⟨rfl, rfl, admitted⟩

theorem gives_current {α : Type} {request : User → Py α}
    {answer : Except Exc α}
    (account : (ownRecords user.id store.db.tables).account = some user)
    (names : ∀ choice, allowed choice →
      Names libraries credentials user.id version choice)
    (gives : Gives allowed (request user) answer store) :
    Gives allowed (do
        let currentUser ←
          Security.Auth.getCurrentUser libraries credentials
        request currentUser)
      ((ownRecords user.id store.db.tables).requester credentials version >>=
        fun _ => answer) store := by
  intro me
  refine finishes_bind (finishes_mono (finishes_getCurrentUser account names)
    ?_ ?_)
  · rintro current later ⟨rfl, rfl, admitted⟩
    rw [admitted]
    exact gives me
  · intro exc later refused
    rw [refused]
    rfl

theorem gives_authorized {α : Type} {request : User → Py α}
    {answer : Except Exc α} {allowedRoles : List UserRole}
    (mere : user.role = .user) (lets : UserRole.user ∈ allowedRoles)
    (account : (ownRecords user.id store.db.tables).account = some user)
    (names : ∀ choice, allowed choice →
      Names libraries credentials user.id version choice)
    (gives : Gives allowed (request user) answer store) :
    Gives allowed (do
        let currentUser ← requireRoles libraries allowedRoles credentials
        request currentUser)
      ((ownRecords user.id store.db.tables).requester credentials version >>=
        fun _ => answer) store := by
  intro me
  refine finishes_bind (finishes_bind (finishes_mono
    (finishes_getCurrentUser account names) ?_ ?_))
  · rintro current later ⟨rfl, rfl, admitted⟩
    rw [if_neg (by simp [mere, lets]), admitted]
    exact finishes_pure _ (gives me)
  · intro exc later refused
    rw [refused]
    rfl

end Requester

/-! ## Every request -/

/-- The reading endpoints of a user, the export with them. -/
inductive Endpoint : Type → Type 1 where
  | readStudent (studentId : Id) : Endpoint StudentResponse
  | readStudents (skip limit : Nat) : Endpoint (List Student)
  | readEnrollment (enrollmentId : Id) : Endpoint Enrollment
  | readEnrollments (skip limit : Nat) : Endpoint (List Enrollment)
  | getCurrentStudent : Endpoint Student
  | getTranscript (studentId : Id) : Endpoint Transcript
  | exportTranscriptAsync (studentId : Id) : Endpoint Unit

/-- An endpoint with its dependencies.  Of an export only the acceptance or the
refusal is answered: the id of the job is a new one each time. -/
def Endpoint.program (libraries : Libraries) (credentials : Option String)
    {α : Type} : Endpoint α → Py α
  | .readStudent studentId => do
      let currentUser ← requireAdminOrUser libraries credentials
      Crud.Student.readStudent libraries studentId currentUser
  | .readStudents skip limit => do
      let currentUser ← requireAdminOrUser libraries credentials
      Crud.Student.readStudents currentUser skip limit
  | .readEnrollment enrollmentId => do
      let currentUser ← requireAdminOrUser libraries credentials
      Crud.Enrollment.readEnrollment enrollmentId currentUser
  | .readEnrollments skip limit => do
      let currentUser ← requireAdminOrUser libraries credentials
      Crud.Enrollment.readEnrollments currentUser skip limit
  | .getCurrentStudent => do
      let currentUser ← Security.Auth.getCurrentUser libraries credentials
      getCurrentStudentEndpoint currentUser
  | .getTranscript studentId => do
      let currentUser ← requireAdminOrUser libraries credentials
      Routers.Reports.getTranscript studentId currentUser
  | .exportTranscriptAsync studentId => do
      let currentUser ← requireAdminOrUser libraries credentials
      silent (Routers.Reports.exportTranscriptAsync studentId currentUser)

def Endpoint.answer (libraries : Libraries) (own : Records)
    (fault : Option Exc) {α : Type} : Endpoint α → Except Exc α
  | .readStudent studentId => own.readStudent libraries studentId
  | .readStudents skip limit => own.readStudents skip limit
  | .readEnrollment enrollmentId => own.readEnrollment enrollmentId
  | .readEnrollments skip limit => own.readEnrollments skip limit
  | .getCurrentStudent => own.currentStudent
  | .getTranscript studentId => own.transcript fault studentId
  | .exportTranscriptAsync studentId => own.exports studentId

/-- Every call succeeds, the token names the account, the computation of a
transcript ends in this way, and a new job has a new id. -/
structure Served (libraries : Libraries) (credentials : Option String)
    (userId : Id) (version : Option Int) (fault : Option Exc) (store : Store)
    (choice : Choice) : Prop where
  done : choice.call = .done
  names : Names libraries credentials userId version choice
  ends : choice.fault = fault
  fresh : Fresh choice store

instance {libraries : Libraries} {credentials : Option String} {userId : Id}
    {version : Option Int} {fault : Option Exc} {store : Store} :
    Answered (Served libraries credentials userId version fault store) :=
  ⟨fun _ served => served.done⟩

section Requests

variable {libraries : Libraries} {credentials : Option String} {user : User}
  {version : Option Int} {fault : Option Exc} {store : Store}

theorem gives_endpoint {α : Type} (endpoint : Endpoint α)
    (mere : user.role = .user)
    (account : (ownRecords user.id store.db.tables).account = some user) :
    Gives (Served libraries credentials user.id version fault store)
      (endpoint.program libraries credentials)
      ((ownRecords user.id store.db.tables).requester credentials version >>=
        fun _ => endpoint.answer libraries
          (ownRecords user.id store.db.tables) fault)
      store := by
  have lets : UserRole.user ∈ [UserRole.admin, UserRole.user] := by simp
  cases endpoint with
  | readStudent studentId =>
      exact gives_authorized mere lets account (fun _ served => served.names)
        (gives_readStudent mere studentId)
  | readStudents skip limit =>
      exact gives_authorized mere lets account (fun _ served => served.names)
        (gives_readStudents mere skip limit)
  | readEnrollment enrollmentId =>
      exact gives_authorized mere lets account (fun _ served => served.names)
        (gives_readEnrollment mere enrollmentId)
  | readEnrollments skip limit =>
      exact gives_authorized mere lets account (fun _ served => served.names)
        (gives_readEnrollments mere skip limit)
  | getCurrentStudent =>
      exact gives_current account (fun _ served => served.names)
        (gives_getCurrentStudentEndpoint mere)
  | getTranscript studentId =>
      exact gives_authorized mere lets account (fun _ served => served.names)
        (gives_getTranscript mere studentId fun _ served => served.ends)
  | exportTranscriptAsync studentId =>
      exact gives_authorized mere lets account (fun _ served => served.names)
        (gives_exportTranscriptAsync mere studentId
          fun _ served => served.fresh)

/-- Both requests come to an end, with one answer. -/
def SameResponse (libraries : Libraries) (credentials : Option String)
    (userId : Id) (version : Option Int) (fault : Option Exc) {α : Type}
    (endpoint : Endpoint α) (store : Store) (otherEndpoint : Endpoint α)
    (other : Store) : Prop :=
  ∃ answer,
    Gives (Served libraries credentials userId version fault store)
      (endpoint.program libraries credentials) answer store ∧
    Gives (Served libraries credentials userId version fault other)
      (otherEndpoint.program libraries credentials) answer other

/-- Two endpoints that answer alike out of the own records. -/
theorem sameResponse_of_answer {α : Type} {endpoint otherEndpoint : Endpoint α}
    {other : Store} (mere : user.role = .user)
    (account : store.db.tables.users.find? user.id = some user)
    (alike : ownRecords user.id store.db.tables =
      ownRecords user.id other.db.tables)
    (answers :
      endpoint.answer libraries (ownRecords user.id store.db.tables) fault =
        otherEndpoint.answer libraries (ownRecords user.id store.db.tables)
          fault) :
    SameResponse libraries credentials user.id version fault endpoint store
      otherEndpoint other := by
  refine ⟨_, gives_endpoint endpoint mere account, ?_⟩
  have otherAccount : (ownRecords user.id other.db.tables).account =
      some user := by
    rw [← alike]
    exact account
  have gives : Gives
      (Served libraries credentials user.id version fault other)
      (otherEndpoint.program libraries credentials) _ other :=
    gives_endpoint otherEndpoint mere otherAccount
  rw [← alike, ← answers] at gives
  exact gives

theorem studentById_unseen (mere : user.role = .user) {studentId : Id}
    (unseen : linkedUser store.db.tables studentId ≠ some user.id) :
    (ownRecords user.id store.db.tables).studentById studentId = none := by
  rw [← student_seen mere, maySee_user mere, Option.filter_eq_none_iff]
  intro row found
  simpa [linkedUser, found] using unseen

theorem enrollmentById_unseen (mere : user.role = .user) {enrollmentId : Id}
    (unseen : ∀ row, store.db.tables.enrollments.find? enrollmentId =
      some row → linkedUser store.db.tables row.studentId ≠ some user.id) :
    (ownRecords user.id store.db.tables).enrollmentById enrollmentId =
      none := by
  rw [← enrollment_seen mere, Option.filter_eq_none_iff]
  intro row found sees
  rw [maySeeEnrollment_user mere] at sees
  have isOwn := studentById_unseen mere (unseen row found)
  unfold Records.studentById at isOwn
  rw [Option.filter_eq_none_iff] at isOwn
  obtain ⟨own, isStudent, same⟩ := (Option.any_eq_true _ _).mp sees
  exact isOwn own isStudent (by simpa [eq_comm] using same)

end Requests

/-- A user's requests are answered out of the own records alone, so another
user's record is as good as none. -/
theorem user_sees_only_own_student (libraries : Libraries)
    (credentials : Option String) (version : Option Int) (fault : Option Exc)
    (user : User) (mere : user.role = .user) (store other : Store)
    (account : store.db.tables.users.find? user.id = some user)
    (alike : ownRecords user.id store.db.tables =
      ownRecords user.id other.db.tables) :
    (∀ (α : Type) (endpoint : Endpoint α), SameResponse libraries credentials
      user.id version fault endpoint store endpoint other) ∧
    (∀ studentId absent : Id,
      linkedUser store.db.tables studentId ≠ some user.id →
      store.db.tables.students.find? absent = none →
      fitsInteger studentId = fitsInteger absent →
      SameResponse libraries credentials user.id version fault
        (.readStudent studentId) store (.readStudent absent) store ∧
      SameResponse libraries credentials user.id version fault
        (.getTranscript studentId) store (.getTranscript absent) store ∧
      SameResponse libraries credentials user.id version fault
        (.exportTranscriptAsync studentId) store
        (.exportTranscriptAsync absent) store) ∧
    ∀ enrollmentId absent : Id,
      (∀ row, store.db.tables.enrollments.find? enrollmentId = some row →
        linkedUser store.db.tables row.studentId ≠ some user.id) →
      store.db.tables.enrollments.find? absent = none →
      fitsInteger enrollmentId = fitsInteger absent →
      SameResponse libraries credentials user.id version fault
        (.readEnrollment enrollmentId) store (.readEnrollment absent)
        store := by
  refine ⟨?_, ?_, ?_⟩
  · intro α endpoint
    exact sameResponse_of_answer mere account alike rfl
  · intro studentId absent others missing fits
    have unseen := studentById_unseen mere others
    have unseenAbsent : (ownRecords user.id store.db.tables).studentById
        absent = none := by
      apply studentById_unseen mere
      simp [linkedUser, missing]
    refine ⟨?_, ?_, ?_⟩
    · apply sameResponse_of_answer mere account rfl
      simp only [Endpoint.answer, Records.readStudent, unseen, unseenAbsent,
        fits]
    · apply sameResponse_of_answer mere account rfl
      simp only [Endpoint.answer, Records.transcript, unseen, unseenAbsent,
        fits]
    · apply sameResponse_of_answer mere account rfl
      simp only [Endpoint.answer, Records.exports, unseen, unseenAbsent, fits]
  · intro enrollmentId absent others missing fits
    have unseen := enrollmentById_unseen mere others
    have unseenAbsent : (ownRecords user.id store.db.tables).enrollmentById
        absent = none := by
      apply enrollmentById_unseen mere
      intro row found
      rw [missing] at found
      cases found
    apply sameResponse_of_answer mere account rfl
    simp only [Endpoint.answer, Records.readEnrollment, unseen, unseenAbsent,
      fits]

/-! ## Two students, one of them linked to another user -/

def othersStudent : Student :=
  ⟨2, "Omar", none, "omar@uni.edu", 0, 1, some 1, 1⟩

/-- Another student besides, and a filled cache. -/
def crowdedStore : Store where
  db := ⟨{ sampleTables with
    students := ⟨[othersStudent, linkedSample], by decide⟩ }, by decide⟩
  cache := fun _ => some ⟨"mona", 60⟩

theorem served_crowded : Served sampleLibraries (some "first") 2 (some 0) none
    crowdedStore {} where
  done := rfl
  names := by
    intro token isFirst
    cases isFirst
    have parsed : int "2" = some 2 := int_repr 2
    simp [decodeAccessToken, sampleLibraries, asInt, parsed]
  ends := rfl
  fresh := rfl

theorem user_sees_only_own_student_two :
    Served sampleLibraries (some "first") 2 (some 0) none crowdedStore {} ∧
    SameResponse sampleLibraries (some "first") 2 (some 0) none
      (.readStudent 2) crowdedStore (.readStudent 2) linkedStore := by
  have alike : ownRecords 2 crowdedStore.db.tables =
      ownRecords 2 linkedStore.db.tables := rfl
  refine ⟨served_crowded, ?_⟩
  exact (user_sees_only_own_student sampleLibraries (some "first") (some 0)
    none sampleUser rfl crowdedStore linkedStore rfl alike).1 StudentResponse
      (.readStudent 2)

end SystemUni.Students.OwnRecords
