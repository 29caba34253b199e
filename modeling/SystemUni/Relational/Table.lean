import Mathlib

/-!
# Tables with a primary key

A table is a list of rows no two of which share their key, so a state that
breaks the primary key cannot be written down.  The operations are the
statements of a relational store: look up by key, update where a condition
holds, insert a row whose key is free, delete by key.
-/

set_option autoImplicit false

namespace Relational

structure Table {ρ κ : Type} (key : ρ → κ) where
  rows : List ρ
  nodup : (rows.map key).Nodup

namespace Table

variable {ρ κ : Type} {key : ρ → κ}

def empty : Table key := ⟨[], List.nodup_nil⟩

@[ext] theorem ext {first second : Table key}
    (rows : first.rows = second.rows) : first = second := by
  cases first
  cases second
  cases rows
  rfl

theorem eq_of_key_eq (table : Table key) {row other : ρ}
    (member : row ∈ table.rows) (otherMember : other ∈ table.rows)
    (same : key row = key other) : row = other :=
  List.inj_on_of_nodup_map table.nodup member otherMember same

/-- At most one row meets a condition that this row meets: no other does. -/
theorem filter_length_le_one (table : Table key) {condition : ρ → Bool}
    {row : ρ} (member : row ∈ table.rows) (meets : condition row = true) :
    (table.rows.filter condition).length ≤ 1 ↔
      ∀ other ∈ table.rows, condition other = true → other = row := by
  have nodup : (table.rows.filter condition).Nodup :=
    table.nodup.of_map.filter condition
  have listed := List.mem_filter.mpr ⟨member, meets⟩
  constructor
  · intro atMostOne other otherMember otherMeets
    have otherListed := List.mem_filter.mpr ⟨otherMember, otherMeets⟩
    obtain ⟨only, isOnly⟩ := List.length_eq_one_iff.mp
      (le_antisymm atMostOne (List.length_pos_of_mem listed))
    rw [isOnly, List.mem_singleton] at listed otherListed
    exact otherListed.trans listed.symm
  · intro nobodyElse
    have within : table.rows.filter condition ⊆ [row] := by
      intro other otherListed
      obtain ⟨otherMember, otherMeets⟩ := List.mem_filter.mp otherListed
      simp [nobodyElse other otherMember otherMeets]
    exact (nodup.subperm within).length_le

/-! ## Look up -/

section Find

variable [DecidableEq κ]

def find? (table : Table key) (wanted : κ) : Option ρ :=
  table.rows.find? fun row => decide (key row = wanted)

theorem key_of_find? {table : Table key} {wanted : κ} {row : ρ}
    (found : table.find? wanted = some row) : key row = wanted := by
  simpa using List.find?_some found

theorem mem_of_find? {table : Table key} {wanted : κ} {row : ρ}
    (found : table.find? wanted = some row) : row ∈ table.rows :=
  List.mem_of_find?_eq_some found

theorem find?_of_mem {table : Table key} {row : ρ}
    (member : row ∈ table.rows) : table.find? (key row) = some row := by
  cases found : table.find? (key row) with
  | none =>
      have absent := List.find?_eq_none.mp found row member
      simp at absent
  | some other =>
      have same := table.eq_of_key_eq (mem_of_find? found) member
        (key_of_find? found)
      rw [same]

theorem find?_eq_some_iff {table : Table key} {wanted : κ} {row : ρ} :
    table.find? wanted = some row ↔ row ∈ table.rows ∧ key row = wanted := by
  constructor
  · intro found
    exact ⟨mem_of_find? found, key_of_find? found⟩
  · rintro ⟨member, rfl⟩
    exact find?_of_mem member

theorem find?_eq_none_iff {table : Table key} {wanted : κ} :
    table.find? wanted = none ↔ ∀ row ∈ table.rows, key row ≠ wanted := by
  simp [find?]

theorem find?_filter {table : Table key} {wanted : κ} {condition : ρ → Bool} :
    (table.find? wanted).filter condition =
      (table.rows.filter condition).find? fun row =>
        decide (key row = wanted) := by
  change _ = find? ⟨table.rows.filter condition,
    table.nodup.sublist (List.filter_sublist.map key)⟩ wanted
  apply Option.ext
  intro row
  rw [Option.filter_eq_some_iff, find?_eq_some_iff, find?_eq_some_iff,
    List.mem_filter]
  constructor
  · rintro ⟨⟨member, same⟩, meets⟩
    exact ⟨⟨member, meets⟩, same⟩
  · rintro ⟨⟨member, meets⟩, same⟩
    exact ⟨⟨member, same⟩, meets⟩

theorem find?_isSome_iff_countP {table : Table key} {wanted : κ} :
    (table.find? wanted).isSome = true ↔
      table.rows.countP (fun row => decide (key row = wanted)) = 1 := by
  have atMostOne : table.rows.countP (fun row => decide (key row = wanted)) ≤
      1 := by
    have counted := List.nodup_iff_count_le_one.mp table.nodup wanted
    rw [List.count, List.countP_map] at counted
    exact counted
  have positive := List.countP_pos_iff (l := table.rows)
    (p := fun row => decide (key row = wanted))
  rw [find?, List.find?_isSome]
  constructor
  · rintro ⟨row, member, same⟩
    have found := positive.mpr ⟨row, member, same⟩
    omega
  · intro one
    exact positive.mp (by omega)

end Find

/-! ## Update -/

/-- `UPDATE … SET … WHERE`: an update that leaves the key alone, on the rows
that meet the condition. -/
def updateWhere (table : Table key) (condition : ρ → Bool) (change : ρ → ρ)
    (same : ∀ row, key (change row) = key row) : Table key where
  rows := table.rows.map fun row => if condition row then change row else row
  nodup := by
    have keys : (table.rows.map fun row =>
        if condition row then change row else row).map key =
        table.rows.map key := by
      rw [List.map_map]
      apply List.map_congr_left
      intro row _
      simp only [Function.comp_apply]
      split
      · exact same row
      · rfl
    rw [keys]
    exact table.nodup

theorem mem_updateWhere {table : Table key} {condition : ρ → Bool}
    {change : ρ → ρ} (same : ∀ row, key (change row) = key row) {row : ρ} :
    row ∈ (table.updateWhere condition change same).rows ↔
      ∃ old ∈ table.rows, (if condition old then change old else old) = row := by
  simp [updateWhere]

theorem find?_updateWhere [DecidableEq κ] (table : Table key)
    (condition : ρ → Bool) (change : ρ → ρ)
    (same : ∀ row, key (change row) = key row) (wanted : κ) :
    (table.updateWhere condition change same).find? wanted =
      (table.find? wanted).map fun row =>
        if condition row then change row else row := by
  unfold find? updateWhere
  rw [List.find?_map]
  congr 2
  funext row
  simp only [Function.comp_apply]
  split
  · rw [same]
  · rfl

/-- A row that the condition does not select stays as it was. -/
theorem find?_updateWhere_skip [DecidableEq κ] {table : Table key}
    {condition : ρ → Bool} {change : ρ → ρ}
    (same : ∀ row, key (change row) = key row) {wanted : κ} {row : ρ}
    (found : table.find? wanted = some row) (skipped : condition row = false) :
    (table.updateWhere condition change same).find? wanted = some row := by
  rw [find?_updateWhere, found]
  simp [skipped]

theorem find?_updateWhere_other [DecidableEq κ] (table : Table key)
    {target wanted : κ} (change : ρ → ρ)
    (same : ∀ row, key (change row) = key row) (other : wanted ≠ target) :
    (table.updateWhere (fun row => decide (key row = target)) change
      same).find? wanted = table.find? wanted := by
  cases found : table.find? wanted with
  | none =>
      rw [find?_updateWhere, found]
      rfl
  | some row =>
      have isWanted := key_of_find? found
      exact find?_updateWhere_skip same found (by simp [isWanted, other])

/-- A property of every row that the update keeps on the rows it changes. -/
theorem forall_updateWhere {table : Table key} {condition : ρ → Bool}
    {change : ρ → ρ} (same : ∀ row, key (change row) = key row)
    {property : ρ → Prop} (before : ∀ row ∈ table.rows, property row)
    (changed : ∀ row ∈ table.rows, condition row = true →
      property (change row)) :
    ∀ row ∈ (table.updateWhere condition change same).rows, property row := by
  intro row member
  obtain ⟨old, oldMember, rfl⟩ := (mem_updateWhere same).mp member
  split
  · rename_i applies
    exact changed old oldMember applies
  · exact before old oldMember

theorem updateWhere_of_none {table : Table key} {condition : ρ → Bool}
    {change : ρ → ρ} (same : ∀ row, key (change row) = key row)
    (none : ∀ row ∈ table.rows, condition row = false) :
    table.updateWhere condition change same = table := by
  apply Table.ext
  calc
    table.rows.map (fun row => if condition row then change row else row) =
        table.rows.map id := by
          apply List.map_congr_left
          intro row member
          simp [none row member]
    _ = table.rows := List.map_id _

/-! ## Insert and delete -/

section Write

variable [DecidableEq κ]

def insert (table : Table key) (row : ρ)
    (fresh : table.find? (key row) = none) : Table key where
  rows := table.rows ++ [row]
  nodup := by
    rw [List.map_append, List.nodup_append]
    refine ⟨table.nodup, List.nodup_singleton _, ?_⟩
    intro first firstMember second secondMember same
    obtain ⟨old, oldMember, rfl⟩ := List.mem_map.mp firstMember
    have isNew : second = key row := by simpa using secondMember
    exact find?_eq_none_iff.mp fresh old oldMember (same.trans isNew)

theorem mem_insert {table : Table key} {row : ρ}
    (fresh : table.find? (key row) = none) {other : ρ} :
    other ∈ (table.insert row fresh).rows ↔ other ∈ table.rows ∨ other = row := by
  simp [insert]

theorem find?_insert (table : Table key) (row : ρ)
    (fresh : table.find? (key row) = none) (wanted : κ) :
    (table.insert row fresh).find? wanted =
      if key row = wanted then some row else table.find? wanted := by
  unfold find? insert
  rw [List.find?_append]
  split
  · rename_i same
    subst same
    have absent : table.rows.find? (fun old => decide (key old = key row)) =
        none := fresh
    simp [absent]
  · rename_i different
    simp [different]

theorem find?_insert_old {table : Table key} {row old : ρ} {wanted : κ}
    (fresh : table.find? (key row) = none)
    (found : table.find? wanted = some old) :
    (table.insert row fresh).find? wanted = some old := by
  have different : key row ≠ wanted := by
    intro same
    rw [same, found] at fresh
    cases fresh
  rw [find?_insert, if_neg different]
  exact found

/-- `DELETE … WHERE` the key. -/
def erase (table : Table key) (wanted : κ) : Table key where
  rows := table.rows.filter fun row => decide (key row ≠ wanted)
  nodup := table.nodup.sublist (List.filter_sublist.map key)

theorem mem_erase {table : Table key} {wanted : κ} {row : ρ} :
    row ∈ (table.erase wanted).rows ↔ row ∈ table.rows ∧ key row ≠ wanted := by
  simp [erase]

theorem find?_erase (table : Table key) (removed wanted : κ) :
    (table.erase removed).find? wanted =
      if wanted = removed then none else table.find? wanted := by
  split
  · rename_i same
    subst same
    rw [find?_eq_none_iff]
    intro row member
    exact (mem_erase.mp member).2
  · rename_i different
    cases found : table.find? wanted with
    | none =>
        rw [find?_eq_none_iff] at found ⊢
        intro row member
        exact found row (mem_erase.mp member).1
    | some row =>
        rw [find?_eq_some_iff] at found ⊢
        obtain ⟨member, rfl⟩ := found
        exact ⟨mem_erase.mpr ⟨member, different⟩, rfl⟩

end Write

end Table

end Relational
