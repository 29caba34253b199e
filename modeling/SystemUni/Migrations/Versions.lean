import SystemUni.Relational.Definition

/-!
# Migrations

The upgrades under `alembic/versions` up to `feb7795f68f3`.  A constraint
without a name gets the one that the database derives.
-/

set_option autoImplicit false

namespace SystemUni.Migrations.Versions

open Relational.Definition

structure Migration where
  revision : String
  downRevision : Option String
  upgrade : List Operation

/-! ## Columns and constraints -/

def column (name : String) (type : ColumnType) (nullable : Bool) : Column :=
  ⟨name, type, nullable, none⟩

def idColumn : Column := column "id" .integer false

def createdAtColumn : Column := ⟨"created_at", .dateTime, false, some .now⟩

def primaryKeyConstraint (table : String) : Constraint :=
  ⟨table ++ "_pkey", ["id"], .primaryKey⟩

def foreignKeyConstraint (table column target : String) : Constraint :=
  ⟨table ++ "_" ++ column ++ "_fkey", [column], .foreignKey target ["id"]⟩

def uniqueConstraint (name : String) (columns : List String) : Constraint :=
  ⟨name, columns, .unique⟩

/-- A unique constraint without a name. -/
def uniqueColumn (table column : String) : Constraint :=
  uniqueConstraint (table ++ "_" ++ column ++ "_key") [column]

def createIndex (name table column : String) (unique : Bool) : Operation :=
  .addConstraint table ⟨name, [column], .index unique⟩

/-! ## The revisions -/

/-- Two revisions called `initial_schema` change nothing. -/
def initialSchema : Migration := ⟨"efb3cf8d0b70", none, []⟩

def initialSchemaAgain : Migration := ⟨"c2c3a82ed581", some "efb3cf8d0b70", []⟩

def addTeacherStudentAndCourseSchedule : Migration where
  revision := "fe5279b329bf"
  downRevision := some "c2c3a82ed581"
  upgrade := [
    .createTable
      { name := "college"
        columns := [
          idColumn,
          column "name" (.string 150) false,
          column "code" (.string 10) false,
          createdAtColumn]
        constraints := [
          primaryKeyConstraint "college",
          uniqueColumn "college" "code"] },
    createIndex "ix_college_name" "college" "name" false,
    .createTable
      { name := "department"
        columns := [
          idColumn,
          column "name" (.string 150) false,
          column "code" (.string 10) false,
          createdAtColumn,
          column "college_id" .integer false]
        constraints := [
          foreignKeyConstraint "department" "college_id" "college",
          primaryKeyConstraint "department",
          uniqueConstraint "uq_department_code" ["college_id", "code"],
          uniqueConstraint "uq_department_name" ["college_id", "name"]] },
    createIndex "ix_department_name" "department" "name" false,
    .createTable
      { name := "course"
        columns := [
          idColumn,
          column "name" (.string 150) false,
          column "code" (.string 10) false,
          createdAtColumn,
          column "department_id" .integer false]
        constraints := [
          foreignKeyConstraint "course" "department_id" "department",
          primaryKeyConstraint "course",
          uniqueConstraint "uq_course_code" ["department_id", "code"],
          uniqueConstraint "uq_course_name" ["department_id", "name"]] },
    .createTable
      { name := "student"
        columns := [
          idColumn,
          column "name" (.string 150) false,
          column "department_id" .integer false,
          createdAtColumn]
        constraints := [
          foreignKeyConstraint "student" "department_id" "department",
          primaryKeyConstraint "student"] },
    createIndex "ix_student_name" "student" "name" false,
    .createTable
      { name := "teacher"
        columns := [
          idColumn,
          column "name" (.string 150) false,
          column "department_id" .integer false,
          createdAtColumn]
        constraints := [
          foreignKeyConstraint "teacher" "department_id" "department",
          primaryKeyConstraint "teacher"] },
    createIndex "ix_teacher_name" "teacher" "name" false,
    .createTable
      { name := "course_offering"
        columns := [
          idColumn,
          column "course_id" .integer false,
          column "teacher_id" .integer false,
          column "semester" (.string 10) false,
          column "academic_year" .integer false,
          column "section" (.string 10) false]
        constraints := [
          foreignKeyConstraint "course_offering" "course_id" "course",
          foreignKeyConstraint "course_offering" "teacher_id" "teacher",
          primaryKeyConstraint "course_offering",
          uniqueConstraint "uq_course_offering"
            ["course_id", "teacher_id", "semester", "academic_year",
              "section"]] },
    .createTable
      { name := "course_schedule"
        columns := [
          idColumn,
          column "course_offering_id" .integer false,
          column "day_of_week" (.string 15) false,
          column "start_time" .time false,
          column "end_time" .time false,
          column "room" (.string 50) false]
        constraints := [
          foreignKeyConstraint "course_schedule" "course_offering_id"
            "course_offering",
          primaryKeyConstraint "course_schedule"] }]

def syncModelsWithDatabase : Migration where
  revision := "1f13b6c5ebd7"
  downRevision := some "fe5279b329bf"
  upgrade := [
    .createTable
      { name := "enrollment"
        columns := [
          idColumn,
          column "student_id" .integer false,
          column "course_offering_id" .integer false,
          column "enrollment_code" (.string 50) false,
          column "grade" .integer true,
          column "is_active" .boolean false,
          column "is_withdrawn" .boolean false,
          createdAtColumn]
        constraints := [
          foreignKeyConstraint "enrollment" "course_offering_id"
            "course_offering",
          foreignKeyConstraint "enrollment" "student_id" "student",
          primaryKeyConstraint "enrollment",
          uniqueColumn "enrollment" "enrollment_code",
          uniqueConstraint "uq_enrollment_student_offering"
            ["student_id", "course_offering_id"]] },
    .addColumn "course_offering" createdAtColumn,
    .addColumn "course_schedule" (column "day" (.string 10) false),
    .addColumn "course_schedule" (column "schedule_type" (.string 10) false),
    .addColumn "course_schedule" createdAtColumn,
    .setType "course_schedule" "room" (.string 10),
    .addConstraint "course_schedule"
      (uniqueConstraint "uq_course_schedule"
        ["course_offering_id", "day", "start_time", "end_time"]),
    .dropColumn "course_schedule" "day_of_week",
    .dropIndex "teacher" "ix_teacher_name"]

def addUserTable : Migration where
  revision := "261ef2b9bad0"
  downRevision := some "1f13b6c5ebd7"
  upgrade := [
    .createTable
      { name := "users"
        columns := [
          idColumn,
          column "username" (.string 150) false,
          column "email" (.string 150) false,
          column "role" (.enum ["ADMIN", "USER", "GUEST"]) false,
          createdAtColumn,
          column "password_hash" (.string 255) false]
        constraints := [
          primaryKeyConstraint "users",
          uniqueColumn "users" "email",
          uniqueColumn "users" "username"] },
    .addColumn "enrollment" (column "cenrollment_code" (.string 50) true),
    .fillNull "enrollment" "cenrollment_code"
      [.literal "LEGACY-ENR-", .column "id"],
    .setNullable "enrollment" "cenrollment_code" false,
    .dropConstraint "enrollment" "enrollment_enrollment_code_key",
    .dropConstraint "enrollment" "uq_enrollment_student_offering",
    .addConstraint "enrollment"
      (uniqueConstraint "uq_student_course_offering"
        ["student_id", "course_offering_id"]),
    .dropColumn "enrollment" "enrollment_code",
    .addColumn "student" (column "age" .integer true),
    .addColumn "student" (column "email" (.string 150) true),
    .fillNull "student" "email"
      [.literal "legacy-student-", .column "id", .literal "@invalid.local"],
    .setNullable "student" "email" false,
    .addConstraint "student" (uniqueColumn "student" "email")]

def fixEnrollmentCodeColumn : Migration where
  revision := "403a366388eb"
  downRevision := some "261ef2b9bad0"
  upgrade := [
    .setNullable "course" "department_id" true,
    .addColumn "enrollment" (column "enrollment_code" (.string 50) false),
    .dropColumn "enrollment" "cenrollment_code"]

def addUserIdToStudent : Migration where
  revision := "feb7795f68f3"
  downRevision := some "403a366388eb"
  upgrade := [
    createIndex "ix_enrollment_enrollment_code" "enrollment" "enrollment_code"
      true,
    .addColumn "student" (column "user_id" .integer true),
    createIndex "ix_student_user_id" "student" "user_id" true,
    .addConstraint "student" (foreignKeyConstraint "student" "user_id" "users")]

/-! ## Running them -/

def statements (migrations : List Migration) : List Operation :=
  migrations.flatMap Migration.upgrade

/-- `context.run_migrations()`: all of them in one transaction, which leaves
the database as it was when a statement fails. -/
def runMigrations (now : Int) (migrations : List Migration) (db : Database) :
    Except DdlError Database :=
  execute now (statements migrations) db

/-- The revisions up to `1f13b6c5ebd7`. -/
def history : List Migration :=
  [initialSchema, initialSchemaAgain, addTeacherStudentAndCourseSchedule,
    syncModelsWithDatabase]

/-- The three upgrades that follow. -/
def chain : List Migration :=
  [addUserTable, fixEnrollmentCodeColumn, addUserIdToStudent]

example : (history ++ chain).map Migration.downRevision =
    none :: (history ++ chain).dropLast.map fun migration =>
      some migration.revision := by decide

def schema1f13b6c5ebd7 : Schema :=
  (definedBy (statements history) []).toOption.getD []

example : definedBy (statements history) [] = .ok schema1f13b6c5ebd7 := by
  decide +kernel

end SystemUni.Migrations.Versions
