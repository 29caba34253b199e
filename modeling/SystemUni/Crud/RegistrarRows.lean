import SystemUni.Crud.Rows

/-!
# What the registrar keeps

The `create_…`, `read_…` and `update_…` functions of `app/crud/college.py`,
`department.py`, `teacher.py`, `course.py` and `courseoffering.py`.
-/

set_option autoImplicit false

namespace SystemUni.Crud.RegistrarRows

open SystemUni.Runtime.Errors
open SystemUni.Runtime.Statements
open SystemUni.Models.Rows
open SystemUni.Crud.Rows

/-! ## Colleges -/

structure CollegeCreate where
  name : String
  code : String

structure CollegeUpdate where
  name : Option String := none
  code : Option String := none

def collegeFits (row : College) : Bool :=
  fitsVarchar 150 row.name && fitsVarchar 10 row.code

def invalidCollege : Exc := .httpException 422 "Invalid college data provided"

def collegeNotFound : Exc := .httpException 404 "College not found"

def createCollege (college : CollegeCreate) : Py College :=
  createRow colleges collegeFits
    ⟨.httpException 409 "College code or constraint conflict", invalidCollege⟩
    fun choice => ⟨choice.newId, college.name, college.code, choice.now⟩

def readCollege (collegeId : Id) : Py College :=
  readRow colleges collegeNotFound collegeId

def readColleges (skip limit : Nat) : Py (List College) :=
  readRows colleges skip limit

def collegeChange (update : CollegeUpdate) (loaded : College) :
    RowChange College.id :=
  let name := assigned loaded.name update.name
  let code := assigned loaded.code update.code
  { apply := fun row => { row with
      name := name.getD row.name
      code := code.getD row.code }
    same := fun _ => rfl
    empty := name.isNone && code.isNone
    fits := name.all (fitsVarchar 150) && code.all (fitsVarchar 10) }

def updateCollege (update : CollegeUpdate) (collegeId : Id) : Py College :=
  updateRow colleges collegeNotFound
    ⟨.httpException 409 "College code conflict", invalidCollege⟩
    (collegeChange update) (fun _ => .ok ()) collegeId

/-! ## Departments -/

structure DepartmentCreate where
  name : String
  code : String
  collegeId : Id

structure DepartmentUpdate where
  name : Option String := none
  code : Option String := none
  collegeId : Option Id := none

def departmentFits (row : Department) : Bool :=
  fitsVarchar 150 row.name && fitsVarchar 10 row.code &&
    fitsInteger row.collegeId

def invalidDepartment : Exc :=
  .httpException 422 "Invalid department data provided"

def departmentNotFound : Exc := .httpException 404 "Department not found"

def createDepartment (department : DepartmentCreate) : Py Department :=
  createRow departments departmentFits
    ⟨.httpException 409 "Department code or name conflict in this college",
      invalidDepartment⟩
    fun choice => ⟨choice.newId, department.name, department.code, choice.now,
      department.collegeId⟩

def readDepartment (departmentId : Id) : Py Department :=
  readRow departments departmentNotFound departmentId

def readDepartments (skip limit : Nat) : Py (List Department) :=
  readRows departments skip limit

def departmentChange (update : DepartmentUpdate) (loaded : Department) :
    RowChange Department.id :=
  let name := assigned loaded.name update.name
  let code := assigned loaded.code update.code
  let collegeId := assigned loaded.collegeId update.collegeId
  { apply := fun row => { row with
      name := name.getD row.name
      code := code.getD row.code
      collegeId := collegeId.getD row.collegeId }
    same := fun _ => rfl
    empty := name.isNone && code.isNone && collegeId.isNone
    fits := name.all (fitsVarchar 150) && code.all (fitsVarchar 10) &&
      collegeId.all fitsInteger }

def updateDepartment (update : DepartmentUpdate) (departmentId : Id) :
    Py Department :=
  updateRow departments departmentNotFound
    ⟨.httpException 409 "Department code or name conflict", invalidDepartment⟩
    (departmentChange update) (fun _ => .ok ()) departmentId

/-! ## Teachers -/

structure TeacherCreate where
  name : String
  departmentId : Id

structure TeacherUpdate where
  name : Option String := none
  departmentId : Option Id := none

def teacherFits (row : Teacher) : Bool :=
  fitsVarchar 150 row.name && fitsInteger row.departmentId

def teacherErrors : WriteErrors :=
  ⟨.httpException 409 "Teacher constraint conflict",
    .httpException 422 "Invalid teacher data provided"⟩

def teacherNotFound : Exc := .httpException 404 "Teacher not found"

def createTeacher (teacher : TeacherCreate) : Py Teacher :=
  createRow teachers teacherFits teacherErrors fun choice =>
    ⟨choice.newId, teacher.name, choice.now, teacher.departmentId⟩

def readTeacher (teacherId : Id) : Py Teacher :=
  readRow teachers teacherNotFound teacherId

def readTeachers (skip limit : Nat) : Py (List Teacher) :=
  readRows teachers skip limit

def teacherChange (update : TeacherUpdate) (loaded : Teacher) :
    RowChange Teacher.id :=
  let name := assigned loaded.name update.name
  let departmentId := assigned loaded.departmentId update.departmentId
  { apply := fun row => { row with
      name := name.getD row.name
      departmentId := departmentId.getD row.departmentId }
    same := fun _ => rfl
    empty := name.isNone && departmentId.isNone
    fits := name.all (fitsVarchar 150) && departmentId.all fitsInteger }

def updateTeacher (update : TeacherUpdate) (teacherId : Id) : Py Teacher :=
  updateRow teachers teacherNotFound teacherErrors
    (teacherChange update) (fun _ => .ok ()) teacherId

/-! ## Courses -/

structure CourseCreate where
  name : String
  code : String
  departmentId : Option Id := none

structure CourseUpdate where
  name : Option String := none
  code : Option String := none
  departmentId : Option Id := none

def courseFits (row : Course) : Bool :=
  fitsVarchar 150 row.name && fitsVarchar 10 row.code &&
    row.departmentId.all fitsInteger

def invalidCourse : Exc := .httpException 422 "Invalid course data provided"

def courseNotFound : Exc := .httpException 404 "Course not found"

def createCourse (course : CourseCreate) : Py Course :=
  createRow courses courseFits
    ⟨.httpException 409 "Course code or name conflict in this department",
      invalidCourse⟩
    fun choice => ⟨choice.newId, course.name, course.code, choice.now,
      course.departmentId⟩

def readCourse (courseId : Id) : Py Course :=
  readRow courses courseNotFound courseId

def readCourses (skip limit : Nat) : Py (List Course) :=
  readRows courses skip limit

def courseChange (update : CourseUpdate) (loaded : Course) :
    RowChange Course.id :=
  let name := assigned loaded.name update.name
  let code := assigned loaded.code update.code
  let departmentId :=
    assigned loaded.departmentId (update.departmentId.map some)
  { apply := fun row => { row with
      name := name.getD row.name
      code := code.getD row.code
      departmentId := departmentId.getD row.departmentId }
    same := fun _ => rfl
    empty := name.isNone && code.isNone && departmentId.isNone
    fits := name.all (fitsVarchar 150) && code.all (fitsVarchar 10) &&
      departmentId.all fun value => value.all fitsInteger }

def updateCourse (update : CourseUpdate) (courseId : Id) : Py Course :=
  updateRow courses courseNotFound
    ⟨.httpException 409 "Course code or name conflict", invalidCourse⟩
    (courseChange update) (fun _ => .ok ()) courseId

/-! ## Course offerings -/

structure CourseOfferingCreate where
  courseId : Id
  teacherId : Id
  semester : String
  academicYear : Int
  sectionName : String

structure CourseOfferingUpdate where
  courseId : Option Id := none
  teacherId : Option Id := none
  semester : Option String := none
  academicYear : Option Int := none
  sectionName : Option String := none

def courseOfferingFits (row : CourseOffering) : Bool :=
  fitsInteger row.courseId && fitsInteger row.teacherId &&
    fitsVarchar 10 row.semester && fitsInteger row.academicYear &&
    fitsVarchar 10 row.sectionName

def invalidCourseOffering : Exc :=
  .httpException 422 "Invalid course offering data"

def courseOfferingNotFound : Exc :=
  .httpException 404 "Course offering not found"

def createCourseOffering (courseOffering : CourseOfferingCreate) :
    Py CourseOffering :=
  createRow courseOfferings courseOfferingFits
    ⟨.httpException 409 "Duplicate course offering constraint",
      invalidCourseOffering⟩
    fun choice => ⟨choice.newId, courseOffering.courseId,
      courseOffering.teacherId, courseOffering.semester,
      courseOffering.academicYear, courseOffering.sectionName, choice.now⟩

def readCourseOffering (courseOfferingId : Id) : Py CourseOffering :=
  readRow courseOfferings courseOfferingNotFound courseOfferingId

def readCourseOfferings (skip limit : Nat) : Py (List CourseOffering) :=
  readRows courseOfferings skip limit

def courseOfferingChange (update : CourseOfferingUpdate)
    (loaded : CourseOffering) : RowChange CourseOffering.id :=
  let courseId := assigned loaded.courseId update.courseId
  let teacherId := assigned loaded.teacherId update.teacherId
  let semester := assigned loaded.semester update.semester
  let academicYear := assigned loaded.academicYear update.academicYear
  let sectionName := assigned loaded.sectionName update.sectionName
  { apply := fun row => { row with
      courseId := courseId.getD row.courseId
      teacherId := teacherId.getD row.teacherId
      semester := semester.getD row.semester
      academicYear := academicYear.getD row.academicYear
      sectionName := sectionName.getD row.sectionName }
    same := fun _ => rfl
    empty := courseId.isNone && teacherId.isNone && semester.isNone &&
      academicYear.isNone && sectionName.isNone
    fits := courseId.all fitsInteger && teacherId.all fitsInteger &&
      semester.all (fitsVarchar 10) && academicYear.all fitsInteger &&
      sectionName.all (fitsVarchar 10) }

def updateCourseOffering (update : CourseOfferingUpdate)
    (courseOfferingId : Id) : Py CourseOffering :=
  updateRow courseOfferings courseOfferingNotFound
    ⟨.httpException 409 "Course offering constraint conflict",
      invalidCourseOffering⟩
    (courseOfferingChange update) (fun _ => .ok ()) courseOfferingId

end SystemUni.Crud.RegistrarRows
