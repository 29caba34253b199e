import SystemUni.Interleaving.Resources
import SystemUni.Routers.Atomicity

/-!
# Row locks end with their session

`SELECT … FOR UPDATE` locks user rows for the transaction of its request.
However the calls of a request end, its session is rolled back last.
-/

set_option autoImplicit false

namespace SystemUni.Accounts.Sessions

open Interleaving
open SystemUni.Runtime.Errors
open SystemUni.Runtime.External
open SystemUni.Runtime.Statements
open SystemUni.Runtime.Atomicity
open SystemUni.Models.Rows
open SystemUni.Models.Schema
open SystemUni.Crud.User
open SystemUni.Workers.Runner
open SystemUni.Workers.Frame
open SystemUni.Accounts.Discipline
open SystemUni.Routers.Api
open SystemUni.Routers.Atomicity
open SystemUni.Routers.Frame
open SystemUni.Application
open SystemUni.Cli

/-- Everything that can hold a row of the users. -/
abbrev holder (store : Store) : Id → Option Nat := store.userLocks

theorem locks_beside : Beside holder :=
  ⟨fun _ _ _ => rfl, fun _ _ _ => rfl⟩

section Programs

variable {α : Type} {libraries : Libraries} {settings : Settings}

/-- The last statement of a session. -/
def rollsBack (result : Except Exc α) : Prog university (Except Exc α) :=
  Prog.bind rollback.run fun _ => .ret result

theorem rollsBack_letsGo (result : Except Exc α) :
    (rollsBack result).LetsGo holder := by
  intro me choice store _
  refine ⟨.inr ?_, trivial⟩
  intro userId locked
  exact (releaseLocks_locked locked).1 rfl

theorem session_letsGo (body : Py α) :
    (withFinally body rollback).run.LetsGo holder := by
  have same : (withFinally body rollback).run = body.run.bind rollsBack := by
    refine (Prog.bind_assoc body.run _ _).trans ?_
    congr 1
    funext result
    cases result with
    | ok value => rfl
    | error exc => rfl
  rw [same]
  refine Prog.letsGo_bind body.run ?_ rollsBack_letsGo
  intro result answer finished
  cases finished

/-! ## Every process is tidy -/

theorem request_tidy (credentials : Option String) (route : Route) :
    (route.serve libraries settings credentials).run.Tidy holder := by
  have atomic : Atomic (requestScope anything)
      (route.serve libraries settings credentials) (fun _ => True)
      fun _ => True :=
    atomic_serve (aftermath_any anything) credentials route
  exact ⟨Prog.Atomic.follows atomic fun _ _ _ => trivial,
    .inl (session_letsGo _)⟩

theorem lawful_of_leaves {request : Py α} (leaves : Leaves holder request) :
    Lawful (takesForItself holder) request := Prog.Keeps.takes leaves

theorem lawful_rollback : Lawful (takesForItself holder) rollback :=
  fun _ _ _ _ =>
    ⟨fun _ _ locked => .inl (releaseLocks_locked locked).2, trivial⟩

theorem createAdmin_tidy (environment : Environment)
    (arguments : AdminArguments) :
    (silent (createAdmin libraries environment arguments)).run.Tidy holder := by
  unfold createAdmin
  cases resolve environment arguments with
  | none => exact Prog.Keeps.tidy trivial
  | some account =>
      constructor
      · refine lawful_bind ?_ fun _ => lawful_pure
        refine lawful_bind (lawful_tryCatch (lawful_tryCatch
          (lawful_of_leaves (leaves_insertAdmin (fun _ _ => rfl) account)) ?_) ?_) ?_
        · exact fun _ => lawful_bind lawful_rollback fun _ => lawful_pure
        · exact fun _ => lawful_bind lawful_rollback fun _ => lawful_throw
        · exact fun _ => lawful_bind lawful_rollback fun _ => lawful_pure
      · refine .inl ((session_letsGo _).answers ?_)
        intro result
        cases result with
        | ok code => exact ⟨_, rfl⟩
        | error exc => exact ⟨_, rfl⟩

theorem process_tidy {program : Prog university (Except Exc Unit)}
    (process : Process libraries settings program) :
    program.Tidy holder := by
  cases process with
  | request credentials route => exact request_tidy credentials route
  | reconcileOnce =>
      exact Prog.Keeps.tidy (leaves_silent (leaves_reconcileOnce locks_beside.toBesideJobs))
  | runOnce =>
      exact Prog.Keeps.tidy
        (leaves_silent (leaves_runOnce locks_beside settings))
  | createAdmin environment arguments =>
      exact createAdmin_tidy environment arguments

end Programs

/-! ## Runs -/

/-- In every run of the application, whatever calls fail, a row lock belongs
to a process that is still running. -/
theorem locks_held_by_running (libraries : Libraries) (settings : Settings)
    (initial : Store) (idle : ∀ userId, initial.userLocks userId = none)
    (config : Config university (Except Exc Unit))
    (reachable : Reachable (application libraries settings) anything initial
      config) (userId : Id) (session : Nat)
    (locked : config.store.userLocks userId = some session) :
    ∃ program, config.threads[session]? = some program ∧
      program.Unfinished := by
  have held : HeldByRunning holder config := by
    refine Run.heldByRunning (fun _ _ process => process_tidy process) ?_ idle
      reachable
    intro child
    cases child with
    | heartbeat claim execution =>
        exact Prog.Keeps.tidy
          (leaves_heartbeatLoop locks_beside.toBesideJobs settings claim execution)
  obtain ⟨program, found, unfinished, _⟩ := held userId session locked
  exact ⟨program, found, unfinished⟩

def adminTables : Tables :=
  { sampleTables with
    users := ⟨[sampleAdmin, { sampleUser with role := .admin }], by decide⟩ }

def adminStore : Store := { db := ⟨adminTables, by decide⟩ }

def demotion : Config university (Except Exc Unit) where
  store := adminStore
  threads := [served (some "first") (.user (.update { role := some .guest } 1))]

/-- It has locked the row of the first. -/
def demoting : Config university (Except Exc Unit) :=
  demotion.played sampleApplication accept (plain [0, 0, 0, 0, 0])

theorem demotion_reachable :
    Reachable sampleApplication anything adminStore demotion := by
  refine started_reachable anything adminStore demotion.threads ?_
  intro program member
  rw [List.mem_singleton.mp member]
  exact .request (some "first") (.user (.update { role := some .guest } 1))

theorem locks_held_by_running_demoting :
    ∃ program, demoting.threads[0]? = some program ∧ program.Unfinished :=
  locks_held_by_running sampleLibraries .default adminStore (fun _ => rfl)
    demoting
    (demotion_reachable.trans (demotion.played_run sampleApplication accept
      anything (fun _ _ _ _ => trivial) (plain [0, 0, 0, 0, 0]) (by cbv)))
    1 0 (by cbv)

end SystemUni.Accounts.Sessions
