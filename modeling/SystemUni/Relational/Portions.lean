import SystemUni.Relational.Table

/-!
# Updates in portions

One change is made to some rows of a table now and to others later, and what it
writes may depend on the moment.  Where no row is due once it has been changed,
the portions and their order show in the moments only.
-/

set_option autoImplicit false

namespace Relational.Table

variable {ρ κ τ ν : Type} {key : ρ → κ} {change : τ → ρ → ρ}

/-- A row changed at its moment, if it has one. -/
def changedAt (change : τ → ρ → ρ) (moment : Option τ) (row : ρ) : ρ :=
  match moment with
  | none => row
  | some time => change time row

theorem key_changedAt (same : ∀ time row, key (change time row) = key row)
    (moment : Option τ) (row : ρ) :
    key (changedAt change moment row) = key row := by
  cases moment with
  | none => rfl
  | some time => exact same time row

/-- Where there is no moment the row stays anyway. -/
theorem if_changedAt (moment : Option τ) (row : ρ) :
    (if moment.isSome then changedAt change moment row else row) =
      changedAt change moment row := by
  cases moment with
  | none => rfl
  | some time => rfl

/-- Every row is changed at the moment the schedule names for it. -/
def changeRows (table : Table key) (change : τ → ρ → ρ)
    (same : ∀ time row, key (change time row) = key row)
    (moments : ρ → Option τ) : Table key :=
  table.updateWhere (fun row => (moments row).isSome)
    (fun row => changedAt change (moments row) row)
    fun row => key_changedAt same (moments row) row

variable {table : Table key}
  (same : ∀ time row, key (change time row) = key row)
  {moments : ρ → Option τ}

theorem rows_changeRows :
    (table.changeRows change same moments).rows =
      table.rows.map fun row => changedAt change (moments row) row := by
  apply List.map_congr_left
  intro row _
  exact if_changedAt (moments row) row

theorem find?_changeRows [DecidableEq κ] (wanted : κ) :
    (table.changeRows change same moments).find? wanted =
      (table.find? wanted).map fun row =>
        changedAt change (moments row) row := by
  rw [changeRows, find?_updateWhere]
  congr 1
  funext row
  exact if_changedAt (moments row) row

theorem updateWhere_eq_changeRows {condition : ρ → Bool} (time : τ) :
    table.updateWhere condition (change time) (same time) =
      table.changeRows change same fun row =>
        if condition row then some time else none := by
  apply Table.ext
  rw [rows_changeRows]
  apply List.map_congr_left
  intro row _
  by_cases applies : condition row = true
  · simp [applies, changedAt]
  · simp [applies, changedAt]

/-- Two portions are one, where a changed row is not changed again. -/
theorem changeRows_changeRows {later : ρ → Option τ}
    (settled : ∀ row ∈ table.rows, ∀ time, moments row = some time →
      later (change time row) = none) :
    (table.changeRows change same moments).changeRows change same later =
      table.changeRows change same fun row => (moments row).or (later row) := by
  apply Table.ext
  rw [rows_changeRows, rows_changeRows, rows_changeRows, List.map_map]
  apply List.map_congr_left
  intro row member
  simp only [Function.comp_apply]
  cases moment : moments row with
  | none => simp [changedAt]
  | some time => simp [changedAt, settled row member time moment]

theorem changeRows_of_none (none : ∀ row ∈ table.rows, moments row = none) :
    table.changeRows change same moments = table := by
  apply updateWhere_of_none
  intro row member
  simp [none row member]

/-- Two schedules of the same rows leave the same to a view that does not see
the moments. -/
theorem map_changeRows {view : ρ → ν} {others : ρ → Option τ}
    (blind : ∀ time other row, view (change time row) = view (change other row))
    (alike : ∀ row ∈ table.rows, (moments row).isSome = (others row).isSome) :
    (table.changeRows change same moments).rows.map view =
      (table.changeRows change same others).rows.map view := by
  rw [rows_changeRows, rows_changeRows, List.map_map, List.map_map]
  apply List.map_congr_left
  intro row member
  have scheduled := alike row member
  simp only [Function.comp_apply]
  cases moment : moments row with
  | none =>
      rw [moment] at scheduled
      have isNone : others row = none := by
        simpa using scheduled.symm
      rw [isNone]
  | some time =>
      rw [moment] at scheduled
      obtain ⟨other, isOther⟩ := Option.isSome_iff_exists.mp scheduled.symm
      rw [isOther]
      exact blind time other row

end Relational.Table
