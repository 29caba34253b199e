import SystemUni.Relational.Table

/-!
# Unique and foreign-key constraints

A nullable column is a function into `Option`; rows without a value take part
in no constraint, as in SQL.
-/

set_option autoImplicit false

namespace Relational

namespace Table

variable {ρ κ ν : Type} {key : ρ → κ}

def HasKey (table : Table key) (wanted : κ) : Prop :=
  ∃ row ∈ table.rows, key row = wanted

instance [DecidableEq κ] (table : Table key) (wanted : κ) :
    Decidable (table.HasKey wanted) :=
  inferInstanceAs (Decidable (∃ row ∈ table.rows, key row = wanted))

/-- `UNIQUE` over the values of `column`. -/
def Unique (table : Table key) (column : ρ → Option ν) : Prop :=
  (table.rows.filterMap column).Nodup

instance [DecidableEq ν] (table : Table key) (column : ρ → Option ν) :
    Decidable (table.Unique column) :=
  inferInstanceAs (Decidable (table.rows.filterMap column).Nodup)

theorem Unique.eq_of_value {table : Table key} {column : ρ → Option ν}
    (unique : table.Unique column) {row other : ρ} {value : ν}
    (member : row ∈ table.rows) (otherMember : other ∈ table.rows)
    (has : column row = some value) (otherHas : column other = some value) :
    row = other := by
  by_contra different
  have apart := List.pairwise_filterMap.mp unique
  have : Std.Symm fun first second : ρ => ∀ value, column first = some value →
      ∀ value', column second = some value' → value ≠ value' :=
    ⟨fun _ _ separate value isValue value' isValue' same =>
      separate value' isValue' value isValue same.symm⟩
  exact apart.forall member otherMember different value has value otherHas rfl

/-- At most one row has a value of a unique column. -/
theorem Unique.filter_eq [DecidableEq ν] {table : Table key}
    {column : ρ → Option ν} (unique : table.Unique column) (value : ν) :
    table.rows.filter (fun row => decide (column row = some value)) =
      (table.rows.find? fun row => decide (column row = some value)).toList := by
  cases found : table.rows.find? fun row =>
      decide (column row = some value) with
  | none =>
      apply List.filter_eq_nil_iff.mpr
      exact List.find?_eq_none.mp found
  | some row =>
      have has : column row = some value := by simpa using List.find?_some found
      have member := List.mem_of_find?_eq_some found
      have listed : row ∈ table.rows.filter fun row =>
          decide (column row = some value) :=
        List.mem_filter.mpr ⟨member, by simpa using has⟩
      have atMostOne : (table.rows.filter fun row =>
          decide (column row = some value)).length ≤ 1 :=
        (table.filter_length_le_one member (by simpa using has)).mpr
          fun other otherMember otherHas =>
            unique.eq_of_value otherMember member (by simpa using otherHas) has
      obtain ⟨only, isOnly⟩ := List.length_eq_one_iff.mp
        (le_antisymm atMostOne (List.length_pos_of_mem listed))
      rw [isOnly, List.mem_singleton] at listed
      rw [isOnly, listed]
      rfl

/-- `FOREIGN KEY`: every value of `column` is the key of a parent row. -/
def References {ρ' κ' : Type} {parentKey : ρ' → κ'} (table : Table key)
    (column : ρ → Option κ') (parent : Table parentKey) : Prop :=
  ∀ row ∈ table.rows, ∀ wanted ∈ column row, parent.HasKey wanted

instance {ρ' κ' : Type} {parentKey : ρ' → κ'} [DecidableEq κ']
    (table : Table key) (column : ρ → Option κ') (parent : Table parentKey) :
    Decidable (table.References column parent) :=
  inferInstanceAs (Decidable
    (∀ row ∈ table.rows, ∀ wanted ∈ column row, parent.HasKey wanted))

/-- `CHECK` on every row. -/
def Checked (table : Table key) (check : ρ → Bool) : Prop :=
  ∀ row ∈ table.rows, check row = true

instance (table : Table key) (check : ρ → Bool) :
    Decidable (table.Checked check) :=
  inferInstanceAs (Decidable (∀ row ∈ table.rows, check row = true))

/-! ## Deleting a row -/

section Erase

variable [DecidableEq κ] {ρ' κ' : Type} {parentKey : ρ' → κ'}
  {table : Table key}

theorem Unique.erase {column : ρ → Option ν} (unique : table.Unique column)
    (removed : κ) : (table.erase removed).Unique column :=
  unique.sublist (List.filter_sublist.filterMap column)

theorem References.erase {column : ρ → Option κ'} {parent : Table parentKey}
    (references : table.References column parent) (removed : κ) :
    (table.erase removed).References column parent :=
  fun row member => references row (mem_erase.mp member).1

theorem HasKey.erase {wanted : κ} (present : table.HasKey wanted)
    {removed : κ} (different : wanted ≠ removed) :
    (table.erase removed).HasKey wanted := by
  obtain ⟨row, member, rfl⟩ := present
  exact ⟨row, mem_erase.mpr ⟨member, different⟩, rfl⟩

end Erase

/-! ## Inserting a row -/

section Insert

variable [DecidableEq κ] {ρ' κ' : Type} {parentKey : ρ' → κ'}
  {table : Table key} {row : ρ}

theorem Unique.insert {column : ρ → Option ν} (unique : table.Unique column)
    (fresh : table.find? (key row) = none)
    (untaken : ∀ other ∈ table.rows, ∀ value, column row = some value →
      column other ≠ some value) :
    (table.insert row fresh).Unique column := by
  change ((table.rows ++ [row]).filterMap column).Nodup
  rw [List.filterMap_append, List.nodup_append]
  refine ⟨unique, ?_, ?_⟩
  · rw [List.filterMap_cons]
    split
    · exact List.nodup_nil
    · exact List.nodup_singleton _
  · intro first isFirst second isSecond same
    obtain ⟨other, member, has⟩ := List.mem_filterMap.mp isFirst
    obtain ⟨new, isNew, newHas⟩ := List.mem_filterMap.mp isSecond
    rw [List.mem_singleton.mp isNew] at newHas
    exact untaken other member second newHas (same ▸ has)

theorem References.insert {column : ρ → Option κ'} {parent : Table parentKey}
    (references : table.References column parent)
    (fresh : table.find? (key row) = none)
    (present : ∀ wanted, column row = some wanted → parent.HasKey wanted) :
    (table.insert row fresh).References column parent := by
  intro other member wanted refers
  rcases (mem_insert fresh).mp member with old | rfl
  · exact references other old wanted refers
  · exact present wanted refers

theorem Checked.insert {check : ρ → Bool} (checked : table.Checked check)
    (fresh : table.find? (key row) = none) (passes : check row = true) :
    (table.insert row fresh).Checked check := by
  intro other member
  rcases (mem_insert fresh).mp member with old | rfl
  · exact checked other old
  · exact passes

end Insert

/-! ## Clearing a column -/

section Clear

variable {ρ' κ' : Type} {parentKey : ρ' → κ'} {table : Table key}
  {condition : ρ → Bool} {change : ρ → ρ}

/-- An update that clears the column or leaves it as it is. -/
theorem Unique.clear {column : ρ → Option ν} (unique : table.Unique column)
    (same : ∀ row, key (change row) = key row)
    (clears : ∀ row, column (change row) = none ∨
      column (change row) = column row) :
    (table.updateWhere condition change same).Unique column := by
  refine unique.sublist ?_
  change List.Sublist ((table.rows.map fun row =>
    if condition row then change row else row).filterMap column) _
  induction table.rows with
  | nil => exact .slnil
  | cons row rest inductionHypothesis =>
      have cleared : column (if condition row then change row else row) =
          none ∨ column (if condition row then change row else row) =
            column row := by
        split
        · exact clears row
        · exact .inr rfl
      rw [List.map_cons, List.filterMap_cons, List.filterMap_cons]
      rcases cleared with none_ | kept
      · rw [none_]
        cases column row with
        | none => exact inductionHypothesis
        | some value => exact inductionHypothesis.cons value
      · rw [kept]
        cases column row with
        | none => exact inductionHypothesis
        | some value => exact inductionHypothesis.cons_cons value

theorem References.clear {column : ρ → Option κ'} {parent : Table parentKey}
    (references : table.References column parent)
    (same : ∀ row, key (change row) = key row)
    (clears : ∀ row, column (change row) = none ∨
      column (change row) = column row) :
    (table.updateWhere condition change same).References column parent := by
  refine forall_updateWhere same references ?_
  intro row member _ wanted refers
  rcases clears row with none_ | kept
  · rw [none_] at refers
    cases refers
  · rw [kept] at refers
    exact references row member wanted refers

end Clear

/-! ## Writing the parent table -/

section Parent

variable {ρ' κ' : Type} {parentKey : ρ' → κ'} {table : Table key}

/-- A row that nothing refers to can be deleted from the parent table. -/
theorem References.eraseParent [DecidableEq κ'] {column : ρ → Option κ'}
    {parent : Table parentKey} (references : table.References column parent)
    {removed : κ'}
    (unreferenced : ∀ row ∈ table.rows, column row ≠ some removed) :
    table.References column (parent.erase removed) := by
  intro row member wanted refers
  refine HasKey.erase (references row member wanted refers) ?_
  rintro rfl
  exact unreferenced row member refers

/-- Updates of the parent table leave its keys alone. -/
theorem References.updateParent {column : ρ → Option κ'}
    {parent : Table parentKey} (references : table.References column parent)
    {applies : ρ' → Bool} {update : ρ' → ρ'}
    (same : ∀ row, parentKey (update row) = parentKey row) :
    table.References column (parent.updateWhere applies update same) := by
  intro row member wanted refers
  obtain ⟨parentRow, parentMember, rfl⟩ := references row member wanted refers
  refine ⟨_, (mem_updateWhere same).mpr ⟨parentRow, parentMember, rfl⟩, ?_⟩
  split
  · exact same parentRow
  · rfl

end Parent

end Table

end Relational
