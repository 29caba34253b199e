import Mathlib.Data.List.Nodup
import Mathlib.Logic.Function.Basic

/-!
# Data definition

Databases whose tables are described by a catalog, and the statements that
change the catalog.  A statement has a part that only the catalog decides and a
condition on the rows; it applies when both are met.
-/

set_option autoImplicit false

namespace Relational.Definition

/-! ## Values and rows -/

inductive Value where
  | null
  | integer (value : Int)
  | text (value : String)
  | boolean (value : Bool)
  | dateTime (microseconds : Int)
  | time (microseconds : Nat)
  deriving DecidableEq

inductive ColumnType where
  | integer
  | string (length : Nat)
  | boolean
  | dateTime
  | time
  | enum (labels : List String)
  deriving DecidableEq

/-- The column can hold the value; any column can hold `NULL` as far as its
type goes. -/
def ColumnType.admits : ColumnType → Value → Bool
  | _, .null => true
  | .integer, .integer value =>
      decide (-2147483648 ≤ value ∧ value ≤ 2147483647)
  | .string length, .text value => decide (value.length ≤ length)
  | .boolean, .boolean _ => true
  | .dateTime, .dateTime _ => true
  | .time, .time _ => true
  | .enum labels, .text value => labels.contains value
  | _, _ => false

/-- The values of a row by the names of their columns. -/
abbrev Row := String → Value

/-- `server_default`. -/
inductive Default where
  | now
  deriving DecidableEq

structure Column where
  name : String
  type : ColumnType
  nullable : Bool
  serverDefault : Option Default := none
  deriving DecidableEq

def Column.accepts (column : Column) (row : Row) : Bool :=
  column.type.admits (row column.name) &&
    (column.nullable || decide (row column.name ≠ .null))

/-- What existing rows get in a new column. -/
def Column.initial (column : Column) (now : Int) : Value :=
  match column.serverDefault with
  | none => .null
  | some .now => .dateTime now

/-! ## Constraints -/

/-- The values of the columns, unless one of them is `NULL`. -/
def keyOf (columns : List String) (row : Row) : Option (List Value) :=
  if columns.all fun column => decide (row column ≠ .null) then
    some (columns.map row)
  else none

def UniqueOn (columns : List String) (rows : List Row) : Prop :=
  (rows.filterMap (keyOf columns)).Nodup

instance (columns : List String) (rows : List Row) :
    Decidable (UniqueOn columns rows) :=
  inferInstanceAs (Decidable (rows.filterMap (keyOf columns)).Nodup)

def RefersTo (columns : List String) (rows : List Row)
    (targetColumns : List String) (targets : List Row) : Prop :=
  ∀ key ∈ rows.filterMap (keyOf columns),
    key ∈ targets.filterMap (keyOf targetColumns)

instance (columns : List String) (rows : List Row)
    (targetColumns : List String) (targets : List Row) :
    Decidable (RefersTo columns rows targetColumns targets) :=
  inferInstanceAs (Decidable (∀ key ∈ rows.filterMap (keyOf columns),
    key ∈ targets.filterMap (keyOf targetColumns)))

inductive ConstraintKind where
  | primaryKey
  | unique
  | foreignKey (target : String) (targetColumns : List String)
  | index (unique : Bool)
  deriving DecidableEq

/-- A constraint or an index. -/
structure Constraint where
  name : String
  columns : List String
  kind : ConstraintKind
  deriving DecidableEq

/-! ## Catalogs and databases -/

structure TableSchema where
  name : String
  columns : List Column
  constraints : List Constraint
  deriving DecidableEq

abbrev Schema := List TableSchema

structure Database where
  schema : Schema
  rows : String → List Row

def Constraint.Holds (constraint : Constraint) (table : String)
    (rows : String → List Row) : Prop :=
  match constraint.kind with
  | .foreignKey target targetColumns =>
      RefersTo constraint.columns (rows table) targetColumns (rows target)
  | .index false => True
  | _ => UniqueOn constraint.columns (rows table)

instance (constraint : Constraint) (table : String)
    (rows : String → List Row) : Decidable (constraint.Holds table rows) := by
  unfold Constraint.Holds
  split <;> infer_instance

/-- The rows are as the catalog describes its table. -/
structure TableSchema.Holds (table : TableSchema)
    (rows : String → List Row) : Prop where
  columns : ∀ row ∈ rows table.name, ∀ column ∈ table.columns,
    column.accepts row = true
  constraints : ∀ constraint ∈ table.constraints,
    constraint.Holds table.name rows

instance (table : TableSchema) (rows : String → List Row) :
    Decidable (table.Holds rows) :=
  decidable_of_iff
    ((∀ row ∈ rows table.name, ∀ column ∈ table.columns,
        column.accepts row = true) ∧
      ∀ constraint ∈ table.constraints, constraint.Holds table.name rows)
    ⟨fun holds => ⟨holds.1, holds.2⟩,
      fun holds => ⟨holds.columns, holds.constraints⟩⟩

structure Database.Valid (db : Database) : Prop where
  tables : ∀ table ∈ db.schema, table.Holds db.rows
  absent : ∀ name, (∀ table ∈ db.schema, table.name ≠ name) →
    db.rows name = []

/-! ## Statements -/

/-- A term of a concatenation with `||`. -/
inductive Operand where
  | literal (text : String)
  | column (name : String)

def Operand.text (row : Row) : Operand → Option String
  | .literal text => some text
  | .column name =>
      match row name with
      | .integer value => some (toString value)
      | .text value => some value
      | _ => none

/-- `NULL` where one of the terms is. -/
def concatenation (operands : List Operand) (row : Row) : Value :=
  match operands.mapM (Operand.text row) with
  | none => .null
  | some texts => .text (String.join texts)

inductive Operation where
  | createTable (table : TableSchema)
  | addColumn (table : String) (column : Column)
  | dropColumn (table column : String)
  | setNullable (table column : String) (nullable : Bool)
  | setType (table column : String) (type : ColumnType)
  | addConstraint (table : String) (constraint : Constraint)
  | dropConstraint (table name : String)
  | dropIndex (table name : String)
  /-- `UPDATE table SET column = … WHERE column IS NULL`. -/
  | fillNull (table column : String) (value : List Operand)

def Operation.table : Operation → String
  | .createTable table => table.name
  | .addColumn table _ => table
  | .dropColumn table _ => table
  | .setNullable table _ _ => table
  | .setType table _ _ => table
  | .addConstraint table _ => table
  | .dropConstraint table _ => table
  | .dropIndex table _ => table
  | .fillNull table _ _ => table

inductive DdlError where
  | duplicate (name : String)
  | undefined (name : String)
  | dependent (name : String)
  | notNullViolation
  | valueTooLong
  | constraintViolation
  deriving DecidableEq

/-! ### What the catalog decides -/

def Constraint.isIndex (constraint : Constraint) : Bool :=
  match constraint.kind with
  | .index _ => true
  | _ => false

/-- The names that a schema gives to tables and to indexes, those of
constraints included. -/
def Schema.relations (schema : Schema) : List String :=
  schema.flatMap fun table =>
    table.name :: (table.constraints.filter fun constraint =>
      match constraint.kind with
      | .foreignKey _ _ => false
      | _ => true).map Constraint.name

/-- A foreign key of some table refers to the column. -/
def Constraint.refersTo (constraint : Constraint) (table column : String) :
    Bool :=
  match constraint.kind with
  | .foreignKey target targetColumns =>
      decide (target = table) && targetColumns.contains column
  | _ => false

/-- The table that a foreign key refers to exists. -/
def Schema.hasTarget (schema : Schema) (constraint : Constraint) : Bool :=
  match constraint.kind with
  | .foreignKey target _ => schema.any fun table => decide (table.name = target)
  | _ => true

def TableSchema.hasColumn (table : TableSchema) (name : String) : Bool :=
  table.columns.any fun column => decide (column.name = name)

def TableSchema.hasConstraint (table : TableSchema) (name : String) : Bool :=
  table.constraints.any fun constraint => decide (constraint.name = name)

def Schema.change (schema : Schema) (table : String)
    (change : TableSchema → Except DdlError TableSchema) :
    Except DdlError Schema :=
  if schema.any fun other => decide (other.name = table) then
    schema.mapM fun other =>
      if other.name = table then change other else .ok other
  else .error (.undefined table)

def TableSchema.changeColumn (table : TableSchema) (name : String)
    (change : Column → Column) : Except DdlError TableSchema :=
  if table.hasColumn name then
    .ok { table with
      columns := table.columns.map fun column =>
        if column.name = name then change column else column }
  else .error (.undefined name)

def TableSchema.remove (table : TableSchema) (name : String) (index : Bool) :
    Except DdlError TableSchema :=
  if table.constraints.any fun constraint =>
      decide (constraint.name = name) && constraint.isIndex == index then
    .ok { table with
      constraints := table.constraints.filter fun constraint =>
        decide (constraint.name ≠ name) }
  else .error (.undefined name)

def Operation.define (schema : Schema) :
    Operation → Except DdlError Schema
  | .createTable table =>
      if schema.relations.contains table.name then
        .error (.duplicate table.name)
      else if table.constraints.all schema.hasTarget then .ok (schema ++ [table])
      else .error (.undefined table.name)
  | .addColumn table column =>
      schema.change table fun other =>
        if other.hasColumn column.name then .error (.duplicate column.name)
        else .ok { other with columns := other.columns ++ [column] }
  | .dropColumn table column =>
      if schema.any fun other => decide (other.name ≠ table) &&
          other.constraints.any fun constraint =>
            constraint.refersTo table column then
        .error (.dependent column)
      else
        schema.change table fun other =>
          if other.hasColumn column then
            .ok { other with
              columns := other.columns.filter fun kept =>
                decide (kept.name ≠ column)
              -- Its constraints and indexes go with the column.
              constraints := other.constraints.filter fun constraint =>
                !constraint.columns.contains column }
          else .error (.undefined column)
  | .setNullable table column nullable =>
      schema.change table fun other =>
        other.changeColumn column fun kept =>
          { kept with nullable := nullable }
  | .setType table column type =>
      schema.change table fun other =>
        other.changeColumn column fun kept => { kept with type := type }
  | .addConstraint table constraint =>
      if schema.relations.contains constraint.name then
        .error (.duplicate constraint.name)
      else
        schema.change table fun other =>
          if other.hasConstraint constraint.name then
            .error (.duplicate constraint.name)
          else if constraint.columns.all other.hasColumn &&
              schema.hasTarget constraint then
            .ok { other with
              constraints := other.constraints ++ [constraint] }
          else .error (.undefined constraint.name)
  | .dropConstraint table name =>
      schema.change table fun other => other.remove name false
  | .dropIndex table name =>
      schema.change table fun other => other.remove name true
  | .fillNull table column _ =>
      schema.change table fun other =>
        if other.hasColumn column then .ok other
        else .error (.undefined column)

/-! ### What becomes of the rows -/

def mapRows (table : String) (change : Row → Row)
    (rows : String → List Row) : String → List Row :=
  Function.update rows table ((rows table).map change)

def Operation.rewrite (now : Int) (rows : String → List Row) :
    Operation → String → List Row
  | .createTable table => Function.update rows table.name []
  | .addColumn table column =>
      mapRows table
        (fun row => Function.update row column.name (column.initial now)) rows
  | .dropColumn table column =>
      mapRows table (fun row => Function.update row column .null) rows
  | .fillNull table column value =>
      mapRows table
        (fun row =>
          if row column = .null then
            Function.update row column (concatenation value row)
          else row) rows
  | _ => rows

/-! ### What the rows decide -/

/-- The constraints and indexes over the column. -/
def Schema.constraintsOn (schema : Schema) (table column : String) :
    List Constraint :=
  (schema.filter fun other => decide (other.name = table)).flatMap fun other =>
    other.constraints.filter fun constraint =>
      constraint.columns.contains column

def Schema.columnsNamed (schema : Schema) (table column : String) :
    List Column :=
  (schema.filter fun other => decide (other.name = table)).flatMap fun other =>
    other.columns.filter fun kept => decide (kept.name = column)

/-- The rows fit the catalog after the statement, given that they did before;
`rows` are those after the statement. -/
def Operation.Admits (schema : Schema) (rows : String → List Row) :
    Operation → Prop
  | .addColumn table column =>
      ∀ row ∈ rows table, column.accepts row = true
  | .setNullable table column nullable =>
      nullable = true ∨ ∀ row ∈ rows table, row column ≠ .null
  | .setType table column type =>
      ∀ row ∈ rows table, type.admits (row column) = true
  | .addConstraint table constraint => constraint.Holds table rows
  | .fillNull table column _ =>
      -- No foreign key of another table refers to what was `NULL`.
      (∀ row ∈ rows table, ∀ kept ∈ schema.columnsNamed table column,
        kept.accepts row = true) ∧
      ∀ constraint ∈ schema.constraintsOn table column,
        constraint.Holds table rows
  | _ => True

instance (schema : Schema) (rows : String → List Row)
    (operation : Operation) : Decidable (operation.Admits schema rows) := by
  cases operation <;> unfold Operation.Admits <;> infer_instance

def Operation.violation : Operation → DdlError
  | .addColumn _ _ => .notNullViolation
  | .setNullable _ _ _ => .notNullViolation
  | .setType _ _ _ => .valueTooLong
  | _ => .constraintViolation

/-! ### Execution -/

def Operation.apply (now : Int) (operation : Operation) (db : Database) :
    Except DdlError Database :=
  match operation.define db.schema with
  | .error error => .error error
  | .ok schema =>
      if operation.Admits schema (operation.rewrite now db.rows) then
        .ok ⟨schema, operation.rewrite now db.rows⟩
      else .error operation.violation

/-- The statements of a script, one after the other. -/
def execute (now : Int) : List Operation → Database → Except DdlError Database
  | [], db => .ok db
  | operation :: rest, db =>
      (operation.apply now db).bind (execute now rest)

/-- The catalog after a script. -/
def definedBy : List Operation → Schema → Except DdlError Schema
  | [], schema => .ok schema
  | operation :: rest, schema => (operation.define schema).bind (definedBy rest)

/-- The rows after a script. -/
def rewrittenBy (now : Int) (operations : List Operation)
    (rows : String → List Row) : String → List Row :=
  operations.foldl (fun rows operation => operation.rewrite now rows) rows

/-- The catalog after a statement that it lets through. -/
def Operation.defined (operation : Operation) (schema : Schema) : Schema :=
  match operation.define schema with
  | .ok next => next
  | .error _ => schema

/-- The rows let every statement of the script through. -/
def Admitted (now : Int) :
    List Operation → Schema → (String → List Row) → Prop
  | [], _, _ => True
  | operation :: rest, schema, rows =>
      operation.Admits (operation.defined schema)
          (operation.rewrite now rows) ∧
        Admitted now rest (operation.defined schema)
          (operation.rewrite now rows)

/-- Where the catalog lets a script through, the rows decide. -/
theorem execute_eq_ok_iff {now : Int} {operations : List Operation}
    {db after : Database} {schema : Schema}
    (defined : definedBy operations db.schema = .ok schema) :
    execute now operations db = .ok after ↔
      Admitted now operations db.schema db.rows ∧
        after = ⟨schema, rewrittenBy now operations db.rows⟩ := by
  induction operations generalizing db with
  | nil =>
      cases defined
      exact ⟨fun same => ⟨trivial, (Except.ok.inj same).symm⟩,
        fun holds => congrArg Except.ok holds.2.symm⟩
  | cons operation rest inductionHypothesis =>
      simp only [definedBy] at defined
      cases next : operation.define db.schema with
      | error error =>
          rw [next] at defined
          cases defined
      | ok middle =>
          rw [next] at defined
          have isDefined : operation.defined db.schema = middle := by
            simp only [Operation.defined, next]
          simp only [execute, Operation.apply, next, Admitted, isDefined]
          by_cases admits :
            operation.Admits middle (operation.rewrite now db.rows)
          · have later := @inductionHypothesis
              ⟨middle, operation.rewrite now db.rows⟩ defined
            rw [if_pos admits]
            exact later.trans ⟨fun holds => ⟨⟨admits, holds.1⟩, holds.2⟩,
              fun holds => ⟨holds.1.2, holds.2⟩⟩
          · rw [if_neg admits]
            exact ⟨nofun, fun holds => absurd holds.1.1 admits⟩

theorem admitted_append {now : Int} {first rest : List Operation}
    {schema : Schema} {rows : String → List Row} :
    Admitted now (first ++ rest) schema rows ↔
      Admitted now first schema rows ∧
        Admitted now rest
          (first.foldl (fun schema operation => operation.defined schema)
            schema)
          (rewrittenBy now first rows) := by
  induction first generalizing schema rows with
  | nil => exact ⟨fun holds => ⟨trivial, holds⟩, And.right⟩
  | cons operation first inductionHypothesis =>
      simp only [List.cons_append, Admitted, inductionHypothesis, and_assoc]
      rfl

section Rows

variable {table other : String} {change : Row → Row}
  {rows : String → List Row}

@[simp]
theorem mapRows_self : mapRows table change rows table =
    (rows table).map change := Function.update_self ..

@[simp]
theorem mapRows_of_ne (different : other ≠ table) :
    mapRows table change rows other = rows other :=
  Function.update_of_ne different ..

theorem mapRows_eq_nil :
    mapRows table change rows other = [] ↔ rows other = [] := by
  by_cases same : other = table
  · subst same
    rw [mapRows_self, List.map_eq_nil_iff]
  · rw [mapRows_of_ne same]

end Rows

/-! ### Statements that are let through -/

section Admits

variable {schema : Schema} {rows : String → List Row} {table : String}

theorem holds_of_empty {constraint : Constraint} (empty : rows table = []) :
    constraint.Holds table rows := by
  unfold Constraint.Holds
  rw [empty]
  split
  · exact List.forall_mem_nil _
  · trivial
  · exact List.nodup_nil

theorem admits_of_empty {operation : Operation}
    (about : operation.table = table) (empty : rows table = []) :
    operation.Admits schema rows := by
  subst about
  have noRow : ∀ {condition : Row → Prop}, ∀ row ∈ rows operation.table,
      condition row := by
    rw [empty]
    exact List.forall_mem_nil _
  cases operation with
  | addColumn table column => exact noRow
  | setNullable table column nullable => exact .inr noRow
  | setType table column type => exact noRow
  | addConstraint table constraint => exact holds_of_empty empty
  | fillNull table column value =>
      exact ⟨noRow, fun _ _ => holds_of_empty empty⟩
  | _ => trivial

theorem rewrite_eq_nil {now : Int} {operation : Operation}
    (empty : rows table = []) : operation.rewrite now rows table = [] := by
  cases operation with
  | createTable created =>
      by_cases same : table = created.name
      · subst same
        exact Function.update_self ..
      · exact (Function.update_of_ne same ..).trans empty
  | addColumn other column => exact mapRows_eq_nil.mpr empty
  | dropColumn other column => exact mapRows_eq_nil.mpr empty
  | fillNull other column value => exact mapRows_eq_nil.mpr empty
  | _ => exact empty

theorem rewrittenBy_eq_nil {now : Int} {operations : List Operation}
    (empty : rows table = []) : rewrittenBy now operations rows table = [] := by
  induction operations generalizing rows with
  | nil => exact empty
  | cons operation rest inductionHypothesis =>
      exact inductionHypothesis (rewrite_eq_nil empty)

def Operation.creates (table : String) : Operation → Bool
  | .createTable created => decide (created.name = table)
  | _ => false

/-- A table that is not created anew has as many rows as before. -/
theorem length_rewrite {now : Int} {operation : Operation}
    (other : operation.creates table = false) :
    (operation.rewrite now rows table).length = (rows table).length := by
  have mapped (changed : String) (change : Row → Row) :
      (mapRows changed change rows table).length = (rows table).length := by
    by_cases same : table = changed
    · subst same
      rw [mapRows_self, List.length_map]
    · rw [mapRows_of_ne same]
  cases operation with
  | createTable created =>
      have apart : table ≠ created.name := fun same =>
        of_decide_eq_false other same.symm
      exact congrArg List.length (Function.update_of_ne apart ..)
  | addColumn changed column => exact mapped changed _
  | dropColumn changed column => exact mapped changed _
  | fillNull changed column value => exact mapped changed _
  | _ => rfl

theorem length_rewrittenBy {now : Int} {operations : List Operation}
    (others : ∀ operation ∈ operations, operation.creates table = false) :
    (rewrittenBy now operations rows table).length = (rows table).length := by
  induction operations generalizing rows with
  | nil => rfl
  | cons operation rest inductionHypothesis =>
      calc (rewrittenBy now (operation :: rest) rows table).length
          = (operation.rewrite now rows table).length :=
            inductionHypothesis fun other member =>
              others other (List.mem_cons_of_mem _ member)
        _ = (rows table).length :=
            length_rewrite (others operation List.mem_cons_self)

theorem admitted_of_empty {now : Int} {operations : List Operation}
    (about : ∀ operation ∈ operations, operation.table = table)
    (empty : rows table = []) : Admitted now operations schema rows := by
  induction operations generalizing schema rows with
  | nil => trivial
  | cons operation rest inductionHypothesis =>
      have later : operation.rewrite now rows table = [] := rewrite_eq_nil empty
      exact ⟨admits_of_empty (about operation List.mem_cons_self) later,
        inductionHypothesis
          (fun other member => about other (List.mem_cons_of_mem _ member))
          later⟩

theorem rewrite_of_ne {now : Int} {operation : Operation}
    (apart : table ≠ operation.table) :
    operation.rewrite now rows table = rows table := by
  cases operation with
  | createTable created => exact Function.update_of_ne apart ..
  | addColumn other column => exact mapRows_of_ne apart
  | dropColumn other column => exact mapRows_of_ne apart
  | fillNull other column value => exact mapRows_of_ne apart
  | _ => rfl

theorem rewrittenBy_of_ne {now : Int} {operations : List Operation}
    (apart : ∀ operation ∈ operations, table ≠ operation.table) :
    rewrittenBy now operations rows table = rows table := by
  induction operations generalizing rows with
  | nil => rfl
  | cons operation rest inductionHypothesis =>
      calc rewrittenBy now (operation :: rest) rows table
          = operation.rewrite now rows table :=
            inductionHypothesis fun other member =>
              apart other (List.mem_cons_of_mem _ member)
        _ = rows table := rewrite_of_ne (apart operation List.mem_cons_self)

/-- A new column that may be `NULL` and has no default. -/
theorem admits_addColumn {now : Int} {column : Column}
    (nullable : column.nullable = true)
    (noDefault : column.serverDefault = none) :
    (Operation.addColumn table column).Admits schema
      ((Operation.addColumn table column).rewrite now rows) := by
  intro row member
  rw [Operation.rewrite, mapRows_self] at member
  obtain ⟨old, _, rfl⟩ := List.mem_map.mp member
  simp [Column.accepts, Column.initial, nullable, noDefault,
    ColumnType.admits]

/-- A new column that may not, without a default, needs a table without
rows. -/
theorem admits_addColumn_required {now : Int} {column : Column}
    (required : column.nullable = false)
    (noDefault : column.serverDefault = none) :
    (Operation.addColumn table column).Admits schema
        ((Operation.addColumn table column).rewrite now rows) ↔
      rows table = [] := by
  constructor
  · intro admits
    by_contra some
    obtain ⟨row, member⟩ := List.exists_mem_of_ne_nil _ some
    have accepted := admits _ (by
      rw [Operation.rewrite, mapRows_self]
      exact List.mem_map_of_mem member)
    simp [Column.accepts, Column.initial, required, noDefault] at accepted
  · intro empty
    exact admits_of_empty rfl (rewrite_eq_nil empty)

end Admits

/-! ### Keys -/

section Keys

variable {columns : List String} {row : Row}

theorem keyOf_of_null {column : String} (listed : column ∈ columns)
    (isNull : row column = .null) : keyOf columns row = none := by
  refine if_neg fun all => ?_
  have present := List.all_eq_true.mp all column listed
  simp [isNull] at present

theorem keyOf_singleton {column : String} {value : Value}
    (has : row column = value) (present : value ≠ .null) :
    keyOf [column] row = some [value] := by
  simp [keyOf, has, present]

theorem uniqueOn_of_null {rows : List Row} {column : String}
    (listed : column ∈ columns)
    (isNull : ∀ row ∈ rows, row column = .null) : UniqueOn columns rows := by
  have none_ : rows.filterMap (keyOf columns) = [] := by
    rw [List.filterMap_eq_nil_iff]
    exact fun row member => keyOf_of_null listed (isNull row member)
  rw [UniqueOn, none_]
  exact List.nodup_nil

theorem refersTo_of_null {rows targets : List Row} {column : String}
    {targetColumns : List String} (listed : column ∈ columns)
    (isNull : ∀ row ∈ rows, row column = .null) :
    RefersTo columns rows targetColumns targets := by
  intro key member
  obtain ⟨row, rowMember, isKey⟩ := List.mem_filterMap.mp member
  rw [keyOf_of_null listed (isNull row rowMember)] at isKey
  cases isKey

theorem uniqueOn_nil : UniqueOn columns [] := List.nodup_nil

/-- A new key that determines the old one is unique where the old one is. -/
theorem UniqueOn.of_key {rows : List Row} {others : List String}
    {change : Row → Row} (unique : UniqueOn columns rows)
    (has : ∀ row ∈ rows, keyOf columns row ≠ none)
    (determines : ∀ row ∈ rows, ∀ other ∈ rows, ∀ key,
      keyOf others (change row) = some key →
      keyOf others (change other) = some key →
        keyOf columns row = keyOf columns other) :
    UniqueOn others (rows.map change) := by
  unfold UniqueOn at *
  rw [List.filterMap_map]
  rw [List.Nodup, List.pairwise_filterMap] at *
  refine unique.imp_of_mem ?_
  intro row other member otherMember apart key isKey otherKey isOther same
  subst same
  have equal := determines row member other otherMember key isKey isOther
  obtain ⟨old, isOld⟩ := Option.ne_none_iff_exists'.mp (has row member)
  exact apart old isOld old (equal ▸ isOld) rfl

end Keys

end Relational.Definition
