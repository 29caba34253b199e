import SystemUni.Crud.CourseSchedule
import SystemUni.Crud.Enrollment
import SystemUni.Crud.Registrar
import SystemUni.Crud.RegistrarRows
import SystemUni.Routers.Reports

/-!
# The eleven routers

Every endpoint with its dependencies, from the point where the path, the query
and the payload have been validated.  Only what a request does is looked at
here, so its answer is dropped.
-/

set_option autoImplicit false

namespace SystemUni.Routers.Api

open SystemUni.Runtime.Errors
open SystemUni.Runtime.External
open SystemUni.Runtime.Statements
open SystemUni.Models.Rows
open SystemUni.Security.Auth
open SystemUni.Crud.User
open SystemUni.Crud.Student
open SystemUni.Crud.Enrollment
open SystemUni.Crud.Registrar
open SystemUni.Crud.RegistrarRows
open SystemUni.Crud.CourseSchedule
open SystemUni.Routers.Reports

def silent {α : Type} (request : Py α) : Py Unit := do
  let _ ← request
  return ()

/-! ## Tables -/

/-- The five endpoints of a table. -/
inductive TableRoute (ι υ : Type) where
  | create (payload : ι)
  | read (rowId : Id)
  | list (skip limit : Nat)
  | update (payload : υ) (rowId : Id)
  | delete (rowId : Id)

/-- What they call, and the roles that may read. -/
structure TableEndpoints (ι υ : Type) where
  readers : List UserRole
  create : ι → Py Unit
  read : User → Id → Py Unit
  list : User → Nat → Nat → Py Unit
  update : υ → Id → Py Unit
  delete : Id → Py Unit

def TableEndpoints.program {ι υ : Type} (endpoints : TableEndpoints ι υ)
    (libraries : Libraries) (credentials : Option String) :
    TableRoute ι υ → Py Unit
  | .create payload => do
      let _ ← requireAdmin libraries credentials
      endpoints.create payload
  | .read rowId => do
      let currentUser ← requireRoles libraries endpoints.readers credentials
      endpoints.read currentUser rowId
  | .list skip limit => do
      let currentUser ← requireRoles libraries endpoints.readers credentials
      endpoints.list currentUser skip limit
  | .update payload rowId => do
      let _ ← requireAdmin libraries credentials
      endpoints.update payload rowId
  | .delete rowId => do
      let _ ← requireAdmin libraries credentials
      endpoints.delete rowId

/-- `require_authenticated_user`. -/
def authenticatedUser : List UserRole := [.admin, .user, .guest]

/-- `require_admin_or_user`. -/
def adminOrUser : List UserRole := [.admin, .user]

/-- `routers/college.py`. -/
def collegeEndpoints : TableEndpoints CollegeCreate CollegeUpdate where
  readers := authenticatedUser
  create college := silent (createCollege college)
  read _ collegeId := silent (readCollege collegeId)
  list _ skip limit := silent (readColleges skip limit)
  update update collegeId := silent (updateCollege update collegeId)
  delete collegeId := silent (deleteCollege collegeId)

/-- `routers/course.py`. -/
def courseEndpoints : TableEndpoints CourseCreate CourseUpdate where
  readers := authenticatedUser
  create course := silent (createCourse course)
  read _ courseId := silent (readCourse courseId)
  list _ skip limit := silent (readCourses skip limit)
  update update courseId := silent (updateCourse update courseId)
  delete courseId := silent (deleteCourse courseId)

/-- `routers/courseoffering.py`. -/
def courseOfferingEndpoints :
    TableEndpoints CourseOfferingCreate CourseOfferingUpdate where
  readers := authenticatedUser
  create courseOffering := silent (createCourseOffering courseOffering)
  read _ courseOfferingId := silent (readCourseOffering courseOfferingId)
  list _ skip limit := silent (readCourseOfferings skip limit)
  update update courseOfferingId :=
    silent (updateCourseOffering update courseOfferingId)
  delete courseOfferingId := silent (deleteCourseOffering courseOfferingId)

/-- `routers/department.py`. -/
def departmentEndpoints : TableEndpoints DepartmentCreate DepartmentUpdate where
  readers := authenticatedUser
  create department := silent (createDepartment department)
  read _ departmentId := silent (readDepartment departmentId)
  list _ skip limit := silent (readDepartments skip limit)
  update update departmentId := silent (updateDepartment update departmentId)
  delete departmentId := silent (deleteDepartment departmentId)

/-- `routers/teacher.py`. -/
def teacherEndpoints : TableEndpoints TeacherCreate TeacherUpdate where
  readers := authenticatedUser
  create teacher := silent (createTeacher teacher)
  read _ teacherId := silent (readTeacher teacherId)
  list _ skip limit := silent (readTeachers skip limit)
  update update teacherId := silent (updateTeacher update teacherId)
  delete teacherId := silent (deleteTeacher teacherId)

/-- `routers/courseschedule.py`. -/
def courseScheduleEndpoints :
    TableEndpoints CourseScheduleCreate CourseScheduleUpdate where
  readers := authenticatedUser
  create courseSchedule := silent (createCourseSchedule courseSchedule)
  read _ courseScheduleId := silent (readCourseSchedule courseScheduleId)
  list _ skip limit := silent (readCourseSchedules skip limit)
  update update courseScheduleId :=
    silent (updateCourseSchedule update courseScheduleId)
  delete courseScheduleId := silent (deleteCourseSchedule courseScheduleId)

/-- `routers/student.py`, the linking apart. -/
def studentEndpoints (libraries : Libraries) :
    TableEndpoints StudentCreate StudentUpdate where
  readers := adminOrUser
  create student := silent (createStudent student)
  read currentUser studentId :=
    silent (readStudent libraries studentId currentUser)
  list currentUser skip limit := silent (readStudents currentUser skip limit)
  update update studentId := silent (updateStudent update studentId)
  delete studentId := silent (deleteStudent studentId)

/-- `routers/enrollment.py`. -/
def enrollmentEndpoints : TableEndpoints EnrollmentCreate EnrollmentUpdate where
  readers := adminOrUser
  create enrollment := silent (createEnrollment enrollment)
  read currentUser enrollmentId :=
    silent (readEnrollment enrollmentId currentUser)
  list currentUser skip limit :=
    silent (readEnrollments currentUser skip limit)
  update update enrollmentId := silent (updateEnrollment update enrollmentId)
  delete enrollmentId := silent (deleteEnrollment enrollmentId)

/-- `routers/user.py`, as far as administrators are concerned; accounts are not
created there. -/
def userEndpoints (libraries : Libraries) :
    TableEndpoints Empty UserUpdate where
  readers := [.admin]
  create payload := nomatch payload
  read _ userId := silent (readUser userId)
  list _ skip limit := silent (readUsers skip limit)
  update update userId := silent (updateUser libraries update userId)
  delete userId := silent (deleteUser userId)

/-! ## The other endpoints -/

structure Health where
  postgres : String
  redis : String

def healthCheck : Py Health := do
  let postgres ← tryCatch
    (do
      query fun _ => ()
      return "healthy")
    fun exc =>
      if exc.isSqlAlchemyError then return "unhealthy" else throw exc
  let redis ← getRedisClient
  return ⟨postgres, if redis then "healthy" else "unavailable"⟩

def studentRecordNotFound : Exc :=
  .httpException 404 "Student record not found"

def getCurrentStudentEndpoint (currentUser : User) : Py Student := do
  if currentUser.role = .guest then throw Crud.Student.forbidden
  let student ← getCurrentStudent currentUser.id
  match student with
  | none => throw studentRecordNotFound
  | some student => return student

/-- `limiter.limit`; the count of the client's requests decides. -/
def limited : Py Unit := do
  let fault ← internal fun _ choice store => (choice.fault, store)
  match fault with
  | some exc => throw exc
  | none => return ()

/-! ## All endpoints -/

inductive Route where
  | healthCheck
  | getTranscript (studentId : Id)
  | exportTranscriptAsync (studentId : Id)
  | getJobStatus (jobId : String)
  | college (route : TableRoute CollegeCreate CollegeUpdate)
  | course (route : TableRoute CourseCreate CourseUpdate)
  | courseOffering
      (route : TableRoute CourseOfferingCreate CourseOfferingUpdate)
  | department (route : TableRoute DepartmentCreate DepartmentUpdate)
  | teacher (route : TableRoute TeacherCreate TeacherUpdate)
  | student (route : TableRoute StudentCreate StudentUpdate)
  | linkStudentUser (studentId userId : Id)
  | enrollment (route : TableRoute EnrollmentCreate EnrollmentUpdate)
  | courseSchedule
      (route : TableRoute CourseScheduleCreate CourseScheduleUpdate)
  | getCurrentUser
  | updateCurrentUser (userUpdate : UserSelfUpdate)
  | getCurrentStudent
  | user (route : TableRoute Empty UserUpdate)
  | registerUser (user : UserRegister)
  | loginUser (userLogin : UserLogin)

def Route.program (libraries : Libraries) (settings : Settings)
    (credentials : Option String) : Route → Py Unit
  | .healthCheck => silent Api.healthCheck
  | .getTranscript studentId => do
      let currentUser ← requireAdminOrUser libraries credentials
      silent (Reports.getTranscript studentId currentUser)
  | .exportTranscriptAsync studentId => do
      let currentUser ← requireAdminOrUser libraries credentials
      silent (Reports.exportTranscriptAsync studentId currentUser)
  | .getJobStatus jobId => do
      let currentUser ← requireAdminOrUser libraries credentials
      silent (Reports.getJobStatus jobId currentUser)
  | .college route => collegeEndpoints.program libraries credentials route
  | .course route => courseEndpoints.program libraries credentials route
  | .courseOffering route =>
      courseOfferingEndpoints.program libraries credentials route
  | .department route => departmentEndpoints.program libraries credentials route
  | .teacher route => teacherEndpoints.program libraries credentials route
  | .student route =>
      (studentEndpoints libraries).program libraries credentials route
  | .linkStudentUser studentId userId => do
      let _ ← requireAdmin libraries credentials
      silent (linkStudentToUser studentId userId)
  | .enrollment route => enrollmentEndpoints.program libraries credentials route
  | .courseSchedule route =>
      courseScheduleEndpoints.program libraries credentials route
  | .getCurrentUser =>
      silent (Security.Auth.getCurrentUser libraries credentials)
  | .updateCurrentUser userUpdate => do
      let currentUser ← Security.Auth.getCurrentUser libraries credentials
      silent (updateUserMe libraries userUpdate currentUser)
  | .getCurrentStudent => do
      let currentUser ← Security.Auth.getCurrentUser libraries credentials
      silent (getCurrentStudentEndpoint currentUser)
  | .user route => (userEndpoints libraries).program libraries credentials route
  | .registerUser payload => do
      limited
      silent (Crud.User.registerUser libraries payload)
  | .loginUser userLogin => do
      limited
      silent (Crud.User.loginUser libraries settings userLogin)

/-- A request in its session. -/
def Route.serve (libraries : Libraries) (settings : Settings)
    (credentials : Option String) (route : Route) : Py Unit :=
  getDb (route.program libraries settings credentials)

end SystemUni.Routers.Api
