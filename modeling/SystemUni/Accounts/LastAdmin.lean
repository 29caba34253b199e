import SystemUni.Accounts.Service

/-!
# An administrator remains

The guard holds whenever it runs: a request that read its target as an
administrator keeps two administrators locked until it commits.  What it
cannot see is a target that became the only administrator after it was read.
-/

set_option autoImplicit false

namespace SystemUni.Accounts.LastAdmin

open Interleaving Relational
open SystemUni.Runtime.Errors
open SystemUni.Runtime.External
open SystemUni.Runtime.Statements
open SystemUni.Models.Rows
open SystemUni.Models.Schema
open SystemUni.Crud.User
open SystemUni.Accounts.Discipline
open SystemUni.Accounts.Requests
open SystemUni.Accounts.Service

/-- No request that read its target with another role demotes or deletes it
while it is the only administrator. -/
def guardsApply : Condition university :=
  fun label _ store => removesUnguarded label store = false

/-- In every run in which no commit slips past the guard that way an
administrator remains. -/
theorem admin_remains (libraries : Libraries) (settings : Settings)
    (initial : Store) (idle : ∀ userId, initial.userLocks userId = none)
    (admin : ∃ user ∈ (users initial).rows, user.role = .admin)
    (config : Config university (Except Exc Unit))
    (reachable : Reachable (accountSystem libraries settings) guardsApply
      initial config) :
    ∃ user ∈ (users config.store).rows, user.role = .admin := by
  have invariant : AccountInvariant True initial := by
    refine ⟨?_, fun _ => ?_⟩
    · intro userId session locked
      rw [idle userId] at locked
      cases locked
    · obtain ⟨user, member, role⟩ := admin
      exact ⟨user, member, by simp [isAdmin, role]⟩
  have run : Reachable (accountSystem libraries settings)
      (accountDiscipline True).ok initial config :=
    reachable.weaken fun _ _ _ applies _ => applies
  have disciplined :=
    (account_obeys libraries settings True).sound invariant run
  obtain ⟨user, member, isAdmin_⟩ := disciplined.inv.admins trivial
  exact ⟨user, member, by simpa [isAdmin] using isAdmin_⟩

def promote (userId : Id) : Py Unit :=
  serve (updateUser sampleLibraries { role := some .admin } userId)

def demote (userId : Id) : Py Unit :=
  serve (updateUser sampleLibraries { role := some .guest } userId)

theorem requests_reachable {condition : Condition university}
    (programs : List (Py Unit))
    (requests : ∀ program ∈ programs,
      AccountRequest sampleLibraries .default program) :
    Reachable (accountSystem sampleLibraries .default) condition sampleStore
      ⟨sampleStore, programs⟩ :=
  arrivals_run _ _ _ programs requests

theorem update_request (role : UserRole) (userId : Id) :
    AccountRequest sampleLibraries .default
      (serve (updateUser sampleLibraries { role := some role } userId)) :=
  .credential _ (.updateUser { role := some role } userId)

/-- User 2 is promoted and then user 1, read as an administrator, demoted. -/
def handedOver : Config university (Except Exc Unit) :=
  Config.played (accountSystem sampleLibraries .default)
    (fun label _ store => !removesUnguarded label store)
    (plain [0, 0, 1, 1, 1, 1, 1])
    ⟨sampleStore, [promote 2, demote 1]⟩

theorem handedOver_reachable :
    Reachable (accountSystem sampleLibraries .default) guardsApply sampleStore
      handedOver := by
  refine (requests_reachable [promote 2, demote 1] ?_).trans
    (Config.played_run _ _ guardsApply
      (fun _ _ _ checked => by simpa [guardsApply] using checked) _ _
      (by decide +kernel))
  intro program member
  simp only [List.mem_cons, List.not_mem_nil, or_false] at member
  rcases member with rfl | rfl
  · exact update_request .admin 2
  · exact update_request .guest 1

theorem admin_remains_handedOver :
    ∃ user ∈ (users handedOver.store).rows, user.role = .admin :=
  admin_remains sampleLibraries .default sampleStore (fun _ => rfl)
    ⟨sampleAdmin, by decide, rfl⟩ handedOver handedOver_reachable

/-- The demotion of user 2 reads the row before the promotion and commits
after user 1 has been demoted. -/
def overtaken : Config university (Except Exc Unit) :=
  Config.played (accountSystem sampleLibraries .default)
    accept (plain [0, 1, 1, 2, 2, 2, 2, 2, 0])
    ⟨sampleStore, [demote 2, promote 2, demote 1]⟩

theorem overtaken_reachable :
    Reachable (accountSystem sampleLibraries .default) anything sampleStore
      overtaken := by
  refine (requests_reachable [demote 2, promote 2, demote 1] ?_).trans
    (Config.played_run _ _ anything (fun _ _ _ _ => trivial) _ _
      (by decide +kernel))
  intro program member
  simp only [List.mem_cons, List.not_mem_nil, or_false] at member
  rcases member with rfl | rfl | rfl
  · exact update_request .guest 2
  · exact update_request .admin 2
  · exact update_request .guest 1

/-- Three overlapping role changes leave no administrator. -/
theorem no_admin_remains :
    ¬ ∀ (libraries : Libraries) (settings : Settings) (initial : Store),
      (∀ userId, initial.userLocks userId = none) →
      (∃ user ∈ (users initial).rows, user.role = .admin) →
      ∀ config, Reachable (accountSystem libraries settings) anything initial
        config → ∃ user ∈ (users config.store).rows, user.role = .admin := by
  intro remains
  have admin := remains sampleLibraries .default sampleStore (fun _ => rfl)
    ⟨sampleAdmin, by decide, rfl⟩ overtaken overtaken_reachable
  have none : ¬ ∃ user ∈ (users overtaken.store).rows,
      user.role = .admin := by decide +kernel
  exact none admin

end SystemUni.Accounts.LastAdmin
