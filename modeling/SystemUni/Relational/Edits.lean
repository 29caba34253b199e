import SystemUni.Relational.Table

/-!
# Edits

A table seen as a map from keys to rows.  An edit gives one key another value
and leaves the rest of the map alone; inserting, updating and deleting by key
are edits.
-/

set_option autoImplicit false

namespace Relational.Table

variable {ρ κ : Type} {key : ρ → κ} [DecidableEq κ]

def Sets (wanted : κ) (value : Option ρ) (before after : Table key) : Prop :=
  after.find? = Function.update before.find? wanted value

theorem Sets.find?_self {wanted : κ} {value : Option ρ}
    {before after : Table key} (sets : Sets wanted value before after) :
    after.find? wanted = value := by
  rw [sets, Function.update_self]

theorem Sets.find?_other {wanted other : κ} {value : Option ρ}
    {before after : Table key} (sets : Sets wanted value before after)
    (different : other ≠ wanted) :
    after.find? other = before.find? other := by
  rw [sets, Function.update_of_ne different]

theorem sets_insert (table : Table key) (row : ρ)
    (fresh : table.find? (key row) = none) :
    Sets (key row) (some row) table (table.insert row fresh) := by
  funext wanted
  rw [find?_insert]
  by_cases same : wanted = key row
  · subst same
    rw [if_pos rfl, Function.update_self]
  · rw [if_neg fun equal => same equal.symm, Function.update_of_ne same]

theorem sets_erase (table : Table key) (removed : κ) :
    Sets removed none table (table.erase removed) := by
  funext wanted
  rw [find?_erase]
  by_cases same : wanted = removed
  · subst same
    rw [if_pos rfl, Function.update_self]
  · rw [if_neg same, Function.update_of_ne same]

/-- The row is changed as it is at that moment. -/
theorem sets_updateWhere {table : Table key} {wanted : κ} {row : ρ}
    (found : table.find? wanted = some row) (change : ρ → ρ)
    (same : ∀ row, key (change row) = key row) :
    Sets wanted (some (change row)) table
      (table.updateWhere (fun row => decide (key row = wanted)) change
        same) := by
  funext other
  by_cases isWanted : other = wanted
  · subst isWanted
    have isKey : key row = other := key_of_find? found
    rw [find?_updateWhere, found, Function.update_self]
    simp [isKey]
  · rw [find?_updateWhere_other table change same isWanted,
      Function.update_of_ne isWanted]

end Relational.Table
