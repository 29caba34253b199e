import SystemUni.Crud.Deletion

/-!
# How a row is created, read and updated

The `create_…`, `read_…` and `update_…` functions of the registrar's tables
have one shape each.  What differs is the table, the fields and the texts of the errors.
-/

set_option autoImplicit false

namespace SystemUni.Crud.Rows

open Relational
open SystemUni.Runtime.Errors
open SystemUni.Runtime.Statements
open SystemUni.Models.Rows
open SystemUni.Models.Changes
open SystemUni.Models.Schema
open SystemUni.Crud.User

/-- Where the rows are kept. -/
structure TableAccess {ρ : Type} (key : ρ → Id) where
  get : Tables → Table key
  set : Table key → Tables → Tables

def colleges : TableAccess College.id where
  get tables := tables.colleges
  set rows tables := { tables with colleges := rows }

def departments : TableAccess Department.id where
  get tables := tables.departments
  set rows tables := { tables with departments := rows }

def teachers : TableAccess Teacher.id where
  get tables := tables.teachers
  set rows tables := { tables with teachers := rows }

def courses : TableAccess Course.id where
  get tables := tables.courses
  set rows tables := { tables with courses := rows }

def courseOfferings : TableAccess CourseOffering.id where
  get tables := tables.courseOfferings
  set rows tables := { tables with courseOfferings := rows }

def courseSchedules : TableAccess CourseSchedule.id where
  get tables := tables.courseSchedules
  set rows tables := { tables with courseSchedules := rows }

def enrollments : TableAccess Enrollment.id where
  get tables := tables.enrollments
  set rows tables := { tables with enrollments := rows }

/-- What assigning the attribute, if it is given, puts into the `UPDATE`. -/
def assigned {α : Type} [DecidableEq α] (loaded : α) (given : Option α) :
    Option α := given.bind (dirty loaded)

/-! ## Errors -/

structure WriteErrors where
  conflict : Exc
  invalid : Exc

/-- The `except` clauses after the commit. -/
def handleWriteErrors {α : Type} (errors : WriteErrors) (exc : Exc) : Py α :=
  match exc with
  | .sql .integrityError _ => do
      rollback
      throw errors.conflict
  | .sql .dataError _ => do
      rollback
      throw errors.invalid
  | exc => throw exc

theorem handles_writeErrors {α : Type} (errors : WriteErrors) :
    Handles (handleWriteErrors errors : Exc → Py α) := by
  intro exc
  unfold handleWriteErrors
  split
  · exact .inr ⟨_, _, _, rfl, by simp, rfl⟩
  · exact .inr ⟨_, _, _, rfl, by simp, rfl⟩
  · exact .inl rfl

section Access

variable {ρ : Type} {key : ρ → Id}

def refreshRow (access : TableAccess key) (rowId : Id) : Py ρ := do
  let row ← query fun store => (access.get store.db.tables).find? rowId
  match row with
  | none => throw (.other "InvalidRequestError" "Could not refresh instance")
  | some row => return row

/-! ## Creating -/

def insertRow (access : TableAccess key) (fits : ρ → Bool) (row : ρ)
    (tables : Tables) : Except SqlError Tables :=
  if !fits row then .error .dataError
  else if fresh : (access.get tables).find? (key row) = none then
    .ok (access.set ((access.get tables).insert row fresh) tables)
  else .error .integrityError

def createRow (access : TableAccess key) (fits : ρ → Bool)
    (errors : WriteErrors) (row : Choice → ρ) : Py ρ :=
  tryCatch
    (do
      let rowId ← transaction .registrar fun choice store =>
        (store.commit (insertRow access fits (row choice))).map fun done =>
          (key (row choice), done.2)
      refreshRow access rowId)
    (handleWriteErrors errors)

/-! ## Reading -/

def readRow (access : TableAccess key) (notFound : Exc) (rowId : Id) :
    Py ρ := do
  let row ← select (fitsInteger rowId) fun store =>
    (access.get store.db.tables).find? rowId
  match row with
  | none => throw notFound
  | some row => return row

def readRows (access : TableAccess key) (skip limit : Nat) : Py (List ρ) :=
  select (fitsInteger skip && fitsInteger limit) fun store =>
    page key skip limit (access.get store.db.tables).rows

/-! ## Updating -/

/-- An `UPDATE` of the columns that changed. -/
structure RowChange (key : ρ → Id) where
  apply : ρ → ρ
  same : ∀ row, key (apply row) = key row
  /-- No column changed. -/
  empty : Bool
  fits : Bool

def flushRow (access : TableAccess key) (rowId : Id) (change : RowChange key)
    (tables : Tables) : Except SqlError Tables :=
  if change.empty then .ok tables
  else if !change.fits then .error .dataError
  else if ((access.get tables).find? rowId).isNone then .error .staleDataError
  else .ok (access.set
    ((access.get tables).updateWhere (fun row => decide (key row = rowId))
      change.apply change.same) tables)

/-- `check` is what `update_course_schedule` makes sure of first. -/
def updateRow (access : TableAccess key) (notFound : Exc)
    (errors : WriteErrors) (change : ρ → RowChange key)
    (check : ρ → Except Exc Unit) (rowId : Id) : Py ρ := do
  let row ← select (fitsInteger rowId) fun store =>
    (access.get store.db.tables).find? rowId
  match row with
  | none => throw notFound
  | some row =>
      match check row with
      | .error exc => throw exc
      | .ok () =>
          tryCatch
            (do
              transaction .registrar fun _ store =>
                store.commit (flushRow access (key row) (change row))
              refreshRow access (key row))
            (handleWriteErrors errors)

end Access

end SystemUni.Crud.Rows
