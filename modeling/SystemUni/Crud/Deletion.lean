import SystemUni.Crud.User

/-!
# How a row is deleted

Every `delete_…` of `app/crud` has the same shape.  Its relationships declare
no delete cascade, so the flush first loads the dependants of the row and sets
their foreign key to `NULL`, then deletes the row.
-/

set_option autoImplicit false

namespace SystemUni.Crud.Deletion

open SystemUni.Runtime.Errors
open SystemUni.Runtime.Statements
open SystemUni.Models.Schema
open SystemUni.Crud.User

/-- `NULL` for a foreign key that does not admit it: refused as soon as the
`UPDATE` finds one of the loaded dependants. -/
def detachRequired {ρ : Type} (loaded : List ρ) (present : ρ → Bool) :
    Except SqlError Unit :=
  if loaded.isEmpty then .ok ()
  else if loaded.any present then .error .integrityError
  else .error .staleDataError

theorem detachRequired_ok {ρ : Type} {loaded : List ρ} {present : ρ → Bool}
    {done : Unit} (detached : detachRequired loaded present = .ok done) :
    loaded = [] := by
  unfold detachRequired at detached
  split at detached
  · rename_i empty
    exact List.isEmpty_iff.mp empty
  · split at detached
    · cases detached
    · cases detached

/-- What tells one deletion from another. -/
structure RowDeletion (ρ δ : Type) where
  label : ρ → Label
  load : Tables → Option ρ
  notFound : Exc
  dependents : ρ → Tables → δ
  flush : ρ → δ → Tables → Except SqlError Tables
  referenced : Exc

/-- The `except IntegrityError` clause. -/
def handleReferenced {α : Type} (referenced exc : Exc) : Py α :=
  if exc.isIntegrityError then do
    rollback
    throw referenced
  else throw exc

theorem handles_referenced {α : Type} (referenced : Exc) :
    Handles (handleReferenced referenced : Exc → Py α) := by
  intro exc
  unfold handleReferenced
  split
  · rename_i integrity
    cases exc with
    | sql kind text =>
        refine .inr ⟨kind, text, referenced, rfl, ?_, rfl⟩
        rintro rfl
        cases integrity
    | _ => cases integrity
  · exact .inl rfl

def deleteRow {ρ δ : Type} (deletion : RowDeletion ρ δ) : Py ρ := do
  let row ← query fun store => deletion.load store.db.tables
  match row with
  | none => throw deletion.notFound
  | some row =>
      tryCatch
        (do
          let dependents ← query fun store =>
            deletion.dependents row store.db.tables
          transaction (deletion.label row) fun _ store =>
            store.commit (deletion.flush row dependents))
        (handleReferenced deletion.referenced)
      return row

end SystemUni.Crud.Deletion
