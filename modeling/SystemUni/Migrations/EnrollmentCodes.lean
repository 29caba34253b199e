import Mathlib
import SystemUni.Migrations.Versions

/-!
# Enrollments across the migrations

The code of an enrollment is renamed and filled in by one upgrade and added
anew, without a default, by the next.  That needs a table without rows: the
three upgrades succeed, and then keep every enrollment, exactly when there is
none.
-/

set_option autoImplicit false

namespace SystemUni.Migrations.EnrollmentCodes

open Relational.Definition
open SystemUni.Migrations.Versions

/-! ## What is asked of the upgrades -/

/-- A database at revision `1f13b6c5ebd7`. -/
structure AtSync (db : Database) : Prop where
  schema : db.schema = schema1f13b6c5ebd7
  valid : db.Valid

def keptColumns : List String :=
  ["id", "student_id", "course_offering_id", "grade", "is_active",
    "is_withdrawn", "enrollment_code"]

/-- Every enrollment is still there with what it had. -/
def KeepsEnrollments (before after : Database) : Prop :=
  ∀ row ∈ before.rows "enrollment", ∃ kept ∈ after.rows "enrollment",
    ∀ column ∈ keptColumns, kept column = row column

/-- The codes are distinct and an index keeps them so. -/
def CodesUnique (db : Database) : Prop :=
  UniqueOn ["enrollment_code"] (db.rows "enrollment") ∧
    (⟨"ix_enrollment_enrollment_code", ["enrollment_code"], .index true⟩ :
      Constraint) ∈ db.schema.constraintsOn "enrollment" "enrollment_code"

/-! ## The generated addresses of students -/

section Students

variable {now : Int} {schema : Schema} {rows : String → List Row}

def legacyEmail : List Operand :=
  [.literal "legacy-student-", .column "id", .literal "@invalid.local"]

/-- The address of the student with this id. -/
def emailOf (studentId : Int) : String :=
  "legacy-student-" ++ (studentId.repr ++ "@invalid.local")

theorem concatenation_legacyEmail {row : Row} {studentId : Int}
    (isId : row "id" = .integer studentId) :
    concatenation legacyEmail row = .text (emailOf studentId) := by
  simp [concatenation, legacyEmail, emailOf, Operand.text, isId, String.join,
    String.append_assoc]

theorem emailOf_injective {studentId other : Int}
    (same : emailOf studentId = emailOf other) : studentId = other := by
  have middle := (String.append_right_inj _).mp same
  exact Int.repr_injective ((String.append_left_inj _).mp middle)

theorem length_emailOf {studentId : Int}
    (bounds : -2147483648 ≤ studentId ∧ studentId ≤ 2147483647) :
    (emailOf studentId).length ≤ 150 := by
  have digits (count : Nat) (small : count ≤ 2147483648) :
      count.repr.length ≤ 10 := by
    refine Nat.repr_length count 10 (by omega) ?_
    omega
  have written : studentId.repr.length ≤ 11 := by
    rw [Int.repr_eq_if]
    split
    · have := digits studentId.toNat (by omega)
      omega
    · have := digits (-studentId).toNat (by omega)
      rw [String.length_append]
      have sign : "-".length = 1 := by decide
      omega
  have before : "legacy-student-".length = 15 := by decide
  have after : "@invalid.local".length = 14 := by decide
  simp only [emailOf, String.length_append]
  omega

/-- Every student has an id that an integer column can hold, and no two have
the same. -/
structure Identified (students : List Row) : Prop where
  id : ∀ row ∈ students, ∃ studentId : Int, row "id" = .integer studentId ∧
    -2147483648 ≤ studentId ∧ studentId ≤ 2147483647
  unique : UniqueOn ["id"] students

theorem AtSync.identified {db : Database} (sync : AtSync db) :
    Identified (db.rows "student") := by
  obtain ⟨table, member, isStudent, hasId, hasKey⟩ :
      ∃ table ∈ db.schema, table.name = "student" ∧ idColumn ∈ table.columns ∧
        primaryKeyConstraint "student" ∈ table.constraints := by
    rw [sync.schema]
    decide +kernel
  have holds := sync.valid.tables table member
  constructor
  · intro row isRow
    rw [← isStudent] at isRow
    have accepted := holds.columns row isRow idColumn hasId
    simp only [Column.accepts, idColumn, column, Bool.false_or,
      Bool.and_eq_true] at accepted
    obtain ⟨admits, present⟩ := accepted
    cases isId : row "id" with
    | integer studentId =>
        rw [isId] at admits
        exact ⟨studentId, rfl, of_decide_eq_true admits⟩
    | null => exact absurd isId (of_decide_eq_true present)
    | text value =>
        rw [isId] at admits
        cases admits
    | boolean value =>
        rw [isId] at admits
        cases admits
    | dateTime value =>
        rw [isId] at admits
        cases admits
    | time value =>
        rw [isId] at admits
        cases admits
  · have unique := holds.constraints _ hasKey
    rw [isStudent] at unique
    exact unique

/-! ### The steps about students -/

def addAge : Operation := .addColumn "student" (column "age" .integer true)

def emailColumn : Column := column "email" (.string 150) true

def addEmail : Operation := .addColumn "student" emailColumn

def fillEmail : Operation := .fillNull "student" "email" legacyEmail

def studentSteps : List Operation :=
  [addAge, addEmail, fillEmail, .setNullable "student" "email" false,
    .addConstraint "student" (uniqueColumn "student" "email")]

/-- What the first three of them make of a row. -/
def migrated (row : Row) : Row :=
  Function.update (Function.update (Function.update row "age" .null) "email"
    .null) "email"
    (concatenation legacyEmail
      (Function.update (Function.update row "age" .null) "email" .null))

theorem rewrittenBy_students :
    rewrittenBy now [addAge, addEmail, fillEmail] rows "student" =
      (rows "student").map migrated := by
  simp only [rewrittenBy, List.foldl_cons, List.foldl_nil, addAge, addEmail,
    fillEmail, Operation.rewrite, mapRows_self, List.map_map]
  refine List.map_congr_left fun row _ => ?_
  simp [migrated, column, emailColumn, Column.initial]

theorem migrated_email {row : Row} {studentId : Int}
    (isId : row "id" = .integer studentId) :
    migrated row "email" = .text (emailOf studentId) := by
  have kept : Function.update (Function.update row "age" Value.null) "email"
      Value.null "id" = .integer studentId := by
    rw [Function.update_of_ne (by decide), Function.update_of_ne (by decide)]
    exact isId
  exact (Function.update_self ..).trans (concatenation_legacyEmail kept)

theorem Identified.emails {students : List Row}
    (identified : Identified students) :
    ∀ row ∈ students.map migrated, ∃ studentId : Int,
      row "email" = .text (emailOf studentId) ∧
      (emailOf studentId).length ≤ 150 := by
  intro row member
  obtain ⟨old, isOld, rfl⟩ := List.mem_map.mp member
  obtain ⟨studentId, isId, bounds⟩ := identified.id old isOld
  exact ⟨studentId, migrated_email isId, length_emailOf bounds⟩

/-- The addresses are distinct because the ids are. -/
theorem Identified.uniqueEmails {students : List Row}
    (identified : Identified students) :
    UniqueOn ["email"] (students.map migrated) := by
  refine identified.unique.of_key ?_ ?_
  · intro row member
    obtain ⟨studentId, isId, _⟩ := identified.id row member
    simp [keyOf_singleton isId nofun]
  · intro row member other otherMember key isKey otherKey
    obtain ⟨studentId, isId, _⟩ := identified.id row member
    obtain ⟨otherId, isOther, _⟩ := identified.id other otherMember
    rw [keyOf_singleton (migrated_email isOther) nofun] at otherKey
    rw [keyOf_singleton (migrated_email isId) nofun, ← otherKey] at isKey
    have same : emailOf studentId = emailOf otherId := by
      simpa using isKey
    rw [keyOf_singleton isId nofun, keyOf_singleton isOther nofun,
      emailOf_injective same]

theorem admitted_studentSteps (identified : Identified (rows "student"))
    (columns : (fillEmail.defined (addEmail.defined
      (addAge.defined schema))).columnsNamed "student" "email" = [emailColumn])
    (constraints : (fillEmail.defined (addEmail.defined
      (addAge.defined schema))).constraintsOn "student" "email" = []) :
    Admitted now studentSteps schema rows := by
  have students := @rewrittenBy_students now rows
  refine ⟨admits_addColumn rfl rfl, admits_addColumn rfl rfl, ⟨?_, ?_⟩,
    .inr ?_, ?_, trivial⟩
  · intro row member kept isKept
    rw [columns] at isKept
    cases List.mem_singleton.mp isKept
    obtain ⟨studentId, isEmail, short⟩ :=
      identified.emails row (students ▸ member)
    have admits := decide_eq_true short
    simpa [Column.accepts, emailColumn, column, isEmail, ColumnType.admits]
      using admits
  · rw [constraints]
    exact List.forall_mem_nil _
  · intro row member
    obtain ⟨studentId, isEmail, _⟩ :=
      identified.emails row (students ▸ member)
    rw [isEmail]
    intro isNone
    cases isNone
  · have unique := identified.uniqueEmails
    rw [← students] at unique
    exact unique

end Students

/-! ## The three upgrades -/

section Upgrades

variable {now : Int} {db : Database} {schema : Schema}
  {rows : String → List Row}

/-- The steps of `add_user_table` before those about students. -/
def userAndEnrollmentSteps : List Operation := addUserTable.upgrade.take 8

theorem addUserTable_steps :
    addUserTable.upgrade = userAndEnrollmentSteps ++ studentSteps := rfl

theorem admitted_addUserTable (sync : AtSync db)
    (empty : db.rows "enrollment" = []) :
    Admitted now addUserTable.upgrade db.schema db.rows := by
  rw [addUserTable_steps, admitted_append]
  constructor
  · have about : ∀ operation ∈ userAndEnrollmentSteps.tail,
        operation.table = "enrollment" := by decide
    exact ⟨trivial, admitted_of_empty about (rewrite_eq_nil empty)⟩
  · have others : ∀ operation ∈ userAndEnrollmentSteps,
        "student" ≠ operation.table := by decide
    refine admitted_studentSteps ?_ ?_ ?_
    · rw [rewrittenBy_of_ne others]
      exact sync.identified
    · rw [sync.schema]
      decide +kernel
    · rw [sync.schema]
      decide +kernel

/-- The code is added without a default. -/
theorem admitted_fixEnrollmentCodeColumn :
    Admitted now fixEnrollmentCodeColumn.upgrade schema rows ↔
      rows "enrollment" = [] := by
  constructor
  · rintro ⟨_, admits, _⟩
    exact (admits_addColumn_required rfl rfl).mp admits
  · intro empty
    exact ⟨.inl rfl, (admits_addColumn_required rfl rfl).mpr empty, trivial,
      trivial⟩

theorem admitted_addUserIdToStudent (empty : rows "enrollment" = []) :
    Admitted now addUserIdToStudent.upgrade schema rows := by
  have unlinked : ∀ row ∈ mapRows "student"
      (fun row => Function.update row "user_id" .null) rows "student",
      row "user_id" = .null := by
    intro row member
    rw [mapRows_self] at member
    obtain ⟨old, _, rfl⟩ := List.mem_map.mp member
    exact Function.update_self ..
  exact ⟨admits_of_empty (rfl : _ = "enrollment") empty,
    admits_addColumn rfl rfl,
    uniqueOn_of_null List.mem_cons_self unlinked,
    refersTo_of_null List.mem_cons_self unlinked, trivial⟩

theorem statements_chain : statements chain =
    addUserTable.upgrade ++ (fixEnrollmentCodeColumn.upgrade ++
      addUserIdToStudent.upgrade) := rfl

/-- The rows let the three upgrades through where no student is enrolled. -/
theorem admitted_chain_iff (sync : AtSync db) :
    Admitted now (statements chain) db.schema db.rows ↔
      db.rows "enrollment" = [] := by
  rw [statements_chain, admitted_append, admitted_append]
  constructor
  · rintro ⟨_, fixes, _⟩
    have none_ := admitted_fixEnrollmentCodeColumn.mp fixes
    have kept : ∀ operation ∈ addUserTable.upgrade,
        operation.creates "enrollment" = false := by decide
    rw [← List.length_eq_zero_iff, length_rewrittenBy kept] at none_
    exact List.length_eq_zero_iff.mp none_
  · intro empty
    exact ⟨admitted_addUserTable sync empty,
      admitted_fixEnrollmentCodeColumn.mpr (rewrittenBy_eq_nil empty),
      admitted_addUserIdToStudent
        (rewrittenBy_eq_nil (rewrittenBy_eq_nil empty))⟩

def schemaFeb7795f68f3 : Schema :=
  (definedBy (statements chain) schema1f13b6c5ebd7).toOption.getD []

theorem definedBy_chain (sync : AtSync db) :
    definedBy (statements chain) db.schema = .ok schemaFeb7795f68f3 := by
  rw [sync.schema]
  decide +kernel

end Upgrades

/-- The upgrades succeed and keep every enrollment with its code exactly when
there is no enrollment. -/
theorem upgrades_keep_enrollments_iff (now : Int) (db : Database)
    (sync : AtSync db) :
    (∃ after, runMigrations now chain db = .ok after ∧
        KeepsEnrollments db after ∧ CodesUnique after) ↔
      db.rows "enrollment" = [] := by
  have defined := definedBy_chain sync
  constructor
  · rintro ⟨after, succeeds, _⟩
    exact (admitted_chain_iff sync).mp ((execute_eq_ok_iff defined).mp succeeds).1
  · intro empty
    have admitted : Admitted now (statements chain) db.schema db.rows :=
      (admitted_chain_iff sync).mpr empty
    refine ⟨_, (execute_eq_ok_iff defined).mpr ⟨admitted, rfl⟩, ?_, ?_,
      ?_⟩
    · rw [KeepsEnrollments, empty]
      exact List.forall_mem_nil _
    · have none_ : rewrittenBy now (statements chain) db.rows "enrollment" =
          [] := rewrittenBy_eq_nil empty
      change UniqueOn _ (rewrittenBy now (statements chain) db.rows "enrollment")
      rw [none_]
      exact uniqueOn_nil
    · change _ ∈ schemaFeb7795f68f3.constraintsOn "enrollment" "enrollment_code"
      decide +kernel

/-! ## A university with one enrollment -/

def rowOf (values : List (String × Value)) : Row :=
  fun name => (values.lookup name).getD .null

def sampleRows : List (String × List Row) := [
  ("college", [rowOf [("id", .integer 1), ("name", .text "Science"),
    ("code", .text "SCI"), ("created_at", .dateTime 0)]]),
  ("department", [rowOf [("id", .integer 1), ("name", .text "Mathematics"),
    ("code", .text "MATH"), ("created_at", .dateTime 0),
    ("college_id", .integer 1)]]),
  ("course", [rowOf [("id", .integer 1), ("name", .text "Algebra"),
    ("code", .text "ALG"), ("created_at", .dateTime 0),
    ("department_id", .integer 1)]]),
  ("student", [rowOf [("id", .integer 1), ("name", .text "Sara"),
    ("department_id", .integer 1), ("created_at", .dateTime 0)]]),
  ("teacher", [rowOf [("id", .integer 1), ("name", .text "Amal"),
    ("department_id", .integer 1), ("created_at", .dateTime 0)]]),
  ("course_offering", [rowOf [("id", .integer 1), ("course_id", .integer 1),
    ("teacher_id", .integer 1), ("semester", .text "Fall"),
    ("academic_year", .integer 2025), ("section", .text "A"),
    ("created_at", .dateTime 0)]])]

def sampleEnrollment : Row :=
  rowOf [("id", .integer 1), ("student_id", .integer 1),
    ("course_offering_id", .integer 1), ("enrollment_code", .text "E-1"),
    ("is_active", .boolean true), ("is_withdrawn", .boolean false),
    ("created_at", .dateTime 0)]

def sampleDatabase (enrollments : List Row) : Database where
  schema := schema1f13b6c5ebd7
  rows name := ((sampleRows ++ [("enrollment", enrollments)]).lookup name).getD []

theorem sampleDatabase_atSync (enrollments : List Row)
    (holds : ∀ table ∈ schema1f13b6c5ebd7,
      table.Holds (sampleDatabase enrollments).rows) :
    AtSync (sampleDatabase enrollments) := by
  refine ⟨rfl, holds, ?_⟩
  intro name absent
  have listed : ∀ key ∈ (sampleRows ++ [("enrollment", enrollments)]).map
      Prod.fst, ∃ table ∈ schema1f13b6c5ebd7, table.name = key := by
    rw [List.map_append]
    change ∀ key ∈ sampleRows.map Prod.fst ++ ["enrollment"], _
    decide +kernel
  have unknown : (sampleRows ++ [("enrollment", enrollments)]).lookup name =
      none := by
    rw [List.lookup_eq_none_iff]
    intro entry member
    obtain ⟨table, isTable, isKey⟩ :=
      listed entry.1 (List.mem_map_of_mem member)
    have different := absent table isTable
    rw [isKey] at different
    simpa using different.symm
  exact congrArg (fun found => Option.getD found []) unknown

/-- Nobody is enrolled. -/
theorem upgrades_keep_enrollments_iff_empty :
    (∃ after, runMigrations 0 chain (sampleDatabase []) = .ok after ∧
        KeepsEnrollments (sampleDatabase []) after ∧ CodesUnique after) ↔
      (sampleDatabase []).rows "enrollment" = [] :=
  upgrades_keep_enrollments_iff 0 (sampleDatabase [])
    (sampleDatabase_atSync [] (by decide +kernel))

/-- One enrollment stops the second upgrade. -/
theorem upgrades_fail_enrolled :
    AtSync (sampleDatabase [sampleEnrollment]) ∧
    runMigrations 0 chain (sampleDatabase [sampleEnrollment]) =
      .error .notNullViolation ∧
    ¬ ∃ after, runMigrations 0 chain (sampleDatabase [sampleEnrollment]) =
        .ok after ∧
      KeepsEnrollments (sampleDatabase [sampleEnrollment]) after ∧
      CodesUnique after := by
  have fails : runMigrations 0 chain (sampleDatabase [sampleEnrollment]) =
      .error .notNullViolation := rfl
  refine ⟨sampleDatabase_atSync _ (by decide +kernel), fails, ?_⟩
  rintro ⟨after, succeeds, _⟩
  rw [fails] at succeeds
  cases succeeds

end SystemUni.Migrations.EnrollmentCodes
