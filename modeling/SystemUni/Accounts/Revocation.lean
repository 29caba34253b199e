import SystemUni.Accounts.Service

/-!
# Token revocation

A token carries the version of its user's row.  Each change of the password or
of the role writes the version it read plus one; if that is the version of the
row it writes, versions only grow and every older token is refused.
-/

set_option autoImplicit false

namespace SystemUni.Accounts.Revocation

open Interleaving Relational
open SystemUni.Runtime.Errors
open SystemUni.Runtime.External
open SystemUni.Runtime.Statements
open SystemUni.Runtime.Rules
open SystemUni.Models.Rows
open SystemUni.Models.Changes
open SystemUni.Models.Schema
open SystemUni.Workers.Tasks
open SystemUni.Workers.Frame
open SystemUni.Security.Auth
open SystemUni.Crud.User
open SystemUni.Accounts.Discipline
open SystemUni.Accounts.Frame
open SystemUni.Accounts.Requests
open SystemUni.Accounts.Service

/-! ## Credential requests neither create nor delete users -/

def userIds (store : Store) : List Id := (users store).rows.map User.id

theorem userIds_update (table : Table User.id) (userId : Id)
    (change : UserChange) :
    (table.updateWhere (fun row => decide (row.id = userId)) change.apply
      change.apply_id).rows.map User.id = table.rows.map User.id := by
  unfold Table.updateWhere
  rw [List.map_map]
  apply List.map_congr_left
  intro row _
  simp only [Function.comp_apply]
  split
  · exact change.apply_id row
  · rfl

theorem userIds_beside : BesideUsers userIds where
  lock _ _ _ := rfl
  release _ _ := rfl
  saved store userId change db flushed := by
    change db.tables.users.rows.map User.id = _
    rcases flushUser_ok flushed with ⟨_, same⟩ | ⟨_, row, _, same⟩
    · rw [same]
      rfl
    · rw [same]
      exact userIds_update (users store) userId change

section Leaves

variable {libraries : Libraries} {settings : Settings}

theorem leaves_accounts {α : Type} {program : Py α}
    (leaves : Leaves accounts program) : Leaves userIds program :=
  Prog.Keeps.map
    (fun view : Table User.id × (Id → Option Nat) =>
      view.1.rows.map User.id) leaves

theorem leaves_credential {program : Py Unit}
    (request : CredentialRequest libraries settings program) :
    Leaves userIds program := by
  have locks : BesideLocks userIds := userIds_beside.toBesideLocks
  cases request with
  | updateUser userUpdate userId =>
      exact leaves_serve locks
        (leaves_updateUser userIds_beside userUpdate userId)
  | updateUserMe userUpdate credentials =>
      exact leaves_serve locks
        (leaves_updateCurrentUser userIds_beside userUpdate credentials)
  | loginUser userLogin => exact leaves_serve locks (leaves_loginUser userLogin)
  | getCurrentUser credentials =>
      exact leaves_serve locks (leaves_getCurrentUser credentials)
  | other program leaves => exact leaves_serve locks (leaves_accounts leaves)

end Leaves

/-- Credential requests keep the account discipline and the ids. -/
def credentialDiscipline : Discipline university :=
  (accountDiscipline False).both (frameDiscipline userIds)

theorem credential_frame (libraries : Libraries) (settings : Settings) :
    Obeys (credentialSystem libraries settings) (frameDiscipline userIds)
      fun _ _ => True where
  starts me _ _ _ request later _ _ :=
    safe_frame (leaves_credential request) me later
  children me child _ _ later _ _ := by
    cases child with
    | heartbeat claim execution =>
        have leaves : Leaves accounts
            (heartbeatLoop settings claim execution) :=
          leaves_heartbeatLoop accounts_beside.toBesideJobs settings claim execution
        exact safe_frame (leaves_accounts leaves) me later

section Runs

variable {libraries : Libraries} {settings : Settings}

/-! ## Versions only grow -/

/-- A change of this user's password or role writes a version that was read
before the row got the version it has. -/
def writesStaleVersion (userId : Id) (label : Label) (store : Store) : Bool :=
  match label with
  | .account (.updateUser read change) =>
      decide (read.id = userId) && change.tokenVersion.isSome &&
        ((users store).find? userId).any fun row =>
          decide (row.tokenVersion ≠ read.tokenVersion)
  | _ => false

def readsCurrent (userId : Id) : Condition university :=
  fun label _ store => writesStaleVersion userId label store = false

instance (userId : Id) (label : Label) (choice : Choice) (store : Store) :
    Decidable (readsCurrent userId label choice store) :=
  inferInstanceAs (Decidable (writesStaleVersion userId label store = false))

theorem readsCurrent_version {userId : Id} {read : User}
    {change : UserChange} {choice : Choice} {store : Store} {version : Nat}
    {row : User}
    (current : readsCurrent userId (.account (.updateUser read change)) choice
      store)
    (target : read.id = userId) (written : change.tokenVersion = some version)
    (found : (users store).find? userId = some row) :
    row.tokenVersion = read.tokenVersion := by
  simpa [readsCurrent, writesStaleVersion, target, written, found] using
    current

/-- The user's row is still there, with the same version or a later one. -/
def VersionGrows (userId : Id) (before after : Store) : Prop :=
  ∀ row, (users before).find? userId = some row →
    ∃ next, (users after).find? userId = some next ∧
      row.tokenVersion ≤ next.tokenVersion

theorem find?_isSome_iff_mem_ids {table : Table User.id} {userId : Id} :
    (table.find? userId).isSome = true ↔ userId ∈ table.rows.map User.id := by
  unfold Table.find?
  rw [List.find?_isSome, List.mem_map]
  simp

/-- What an effect makes of one user's row when the ids stay. -/
theorem effect_row {before after : Table User.id} {label : Label}
    (effect : UserEffect before label after)
    (ids : after.rows.map User.id = before.rows.map User.id) {userId : Id}
    {row : User} (found : before.find? userId = some row) :
    after.find? userId = some row ∨
      ∃ read change, label = .account (.updateUser read change) ∧
        read.id = userId ∧ Bumps read change ∧
        after.find? userId = some (change.apply row) := by
  have key : row.id = userId := Table.key_of_find? found
  cases effect with
  | unchanged label => exact .inl found
  | registered user fresh =>
      exact .inl (Table.find?_insert_old fresh found)
  | updated read change bumps =>
      by_cases same : row.id = read.id
      · refine .inr ⟨read, change, rfl, same.symm.trans key, bumps, ?_⟩
        rw [Table.find?_updateWhere, found]
        simp [same]
      · refine .inl ?_
        rw [Table.find?_updateWhere, found]
        simp [same]
  | deleted read dependent =>
      refine .inl ?_
      have present : ((before.erase read.id).find? userId).isSome = true := by
        rw [find?_isSome_iff_mem_ids, ids, ← find?_isSome_iff_mem_ids, found]
        rfl
      rw [Table.find?_erase] at present ⊢
      split
      · rename_i erased
        rw [if_pos erased] at present
        cases present
      · exact found

theorem version_step {userId : Id} {label : Label} {choice : Choice}
    {before after : Store}
    (effect : UserEffect (users before) label (users after))
    (ids : userIds after = userIds before)
    (current : readsCurrent userId label choice before) :
    VersionGrows userId before after := by
  intro row found
  rcases effect_row effect ids found with
    same | ⟨read, change, rfl, target, bumps, written⟩
  · exact ⟨row, same, le_refl _⟩
  · refine ⟨change.apply row, written, ?_⟩
    rcases bumps with ⟨_, _, unversioned⟩ | versioned
    · simp [UserChange.apply, unversioned]
    · have agrees := readsCurrent_version current target versioned found
      simp only [UserChange.apply, versioned, Option.getD_some]
      omega

/-- A change of the password or of the role moves the version on. -/
theorem version_moves {userId : Id} {label : Label} {choice : Choice}
    {before after : Store}
    (effect : UserEffect (users before) label (users after))
    (ids : userIds after = userIds before)
    (current : readsCurrent userId label choice before) {row next : User}
    (found : (users before).find? userId = some row)
    (becomes : (users after).find? userId = some next)
    (changes : next.passwordHash ≠ row.passwordHash ∨ next.role ≠ row.role) :
    row.tokenVersion < next.tokenVersion := by
  rcases effect_row effect ids found with
    same | ⟨read, change, rfl, target, bumps, written⟩
  · have equal : next = row := Option.some.inj (becomes.symm.trans same)
    rcases changes with hash | role
    · exact absurd (congrArg User.passwordHash equal) hash
    · exact absurd (congrArg User.role equal) role
  · have equal : next = change.apply row :=
      Option.some.inj (becomes.symm.trans written)
    subst equal
    rcases bumps with ⟨noHash, noRole, _⟩ | versioned
    · simp [UserChange.apply, noHash, noRole] at changes
    · have agrees := readsCurrent_version current target versioned found
      simp only [UserChange.apply, versioned, Option.getD_some]
      omega

theorem VersionGrows.refl (userId : Id) (store : Store) :
    VersionGrows userId store store := fun row found => ⟨row, found, le_refl _⟩

theorem VersionGrows.trans {userId : Id} {first middle last : Store}
    (before : VersionGrows userId first middle)
    (after : VersionGrows userId middle last) :
    VersionGrows userId first last := by
  intro row found
  obtain ⟨next, nextFound, grows⟩ := before row found
  obtain ⟨final, finalFound, further⟩ := after next nextFound
  exact ⟨final, finalFound, le_trans grows further⟩

theorem admits_all (userId : Id) (label : Label) (choice : Choice)
    (store : Store) (_ : readsCurrent userId label choice store) :
    credentialDiscipline.ok label choice store := ⟨nofun, trivial⟩

theorem credential_obeys_both (libraries : Libraries) (settings : Settings) :
    Obeys (credentialSystem libraries settings) credentialDiscipline
      fun answer store => anyAnswer answer store ∧ True :=
  (credential_obeys libraries settings False).both
    (credential_frame libraries settings)

theorem credential_disciplined {initial : Store} {userId : Id}
    (idle : ∀ userId, initial.userLocks userId = none)
    {config : Config university (Except Exc Unit)}
    (reachable : Reachable (credentialSystem libraries settings)
      (readsCurrent userId) initial config) :
    Disciplined credentialDiscipline
      (fun answer store => anyAnswer answer store ∧ True) config := by
  refine (credential_obeys_both libraries settings).sound ?_
    (reachable.weaken (admits_all userId))
  refine ⟨⟨?_, nofun⟩, trivial⟩
  intro otherId session locked
  rw [idle otherId] at locked
  cases locked

theorem run_version {userId : Id}
    {first last : Config university (Except Exc Unit)}
    (disciplined : Disciplined credentialDiscipline
      (fun answer store => anyAnswer answer store ∧ True) first)
    (run : Run (credentialSystem libraries settings) (readsCurrent userId)
      first last) :
    VersionGrows userId first.store last.store := by
  refine (credential_obeys_both libraries settings).preserves
    (admits_all userId) (VersionGrows userId first.store) ?_ disciplined run
    (.refl userId first.store)
  intro me label choice before after _ guaranteed current grows
  exact grows.trans
    (version_step guaranteed.1.1 guaranteed.2 current)

/-! ## Older tokens are refused -/

/-- `get_current_user` answers 401 to this token whenever it reads the user in
this store. -/
def Refused (libraries : Libraries) (token : String) (store : Store) : Prop :=
  ∀ now me choice, choice.call = .done → ∃ left,
    (checkToken libraries now token).run.solo me (fun _ => choice) store =
      some (.error invalidToken, store, left)

theorem refused_of_version {libraries : Libraries}
    (keeps : KeepsClaims libraries) {store : Store} {userId : Id}
    {tokenVersion : Nat} {row : User}
    (found : (users store).find? userId = some row)
    (outdated : row.tokenVersion ≠ tokenVersion) (minted : Time) :
    Refused libraries
      (accessToken libraries settings minted userId tokenVersion) store := by
  intro now me choice done
  unfold checkToken
  cases decoded : decodeAccessToken libraries now
      (accessToken libraries settings minted userId tokenVersion) with
  | none => exact ⟨_, rfl⟩
  | some claims =>
      obtain ⟨decodedId, decodedVersion⟩ := claims
      obtain ⟨rfl, rfl⟩ := decode_accessToken keeps decoded
      have mismatch : (row.tokenVersion : Int) ≠ tokenVersion :=
        fun same => outdated (Int.ofNat.inj same)
      refine ⟨rest fun _ => choice, ?_⟩
      have admission : admitUser (store.db.tables.users.find? decodedId)
          tokenVersion = .error invalidToken := by
        change admitUser ((users store).find? decodedId) tokenVersion = _
        rw [found]
        simp only [admitUser, ne_eq, mismatch, not_false_eq_true, if_true]
      rw [solo_query done]
      simp only [admission]
      rfl

/-- In every run in which the changes of a user's password and role find the
version they have read, a token minted before such a change is refused
wherever the row is read after it. -/
theorem older_tokens_refused (libraries : Libraries) (settings : Settings)
    (keeps : KeepsClaims libraries) (initial : Store)
    (idle : ∀ userId, initial.userLocks userId = none) (userId : Id)
    (minting before after reading : Config university (Except Exc Unit))
    (reachable : Reachable (credentialSystem libraries settings)
      (readsCurrent userId) initial minting)
    (earlier : Run (credentialSystem libraries settings) (readsCurrent userId)
      minting before)
    (thread : Nat) (label : Label) (choice : Choice)
    (commits : Transition (credentialSystem libraries settings) before
      (.act thread label choice) after)
    (admitted : readsCurrent userId label choice before.store)
    (later : Run (credentialSystem libraries settings) (readsCurrent userId)
      after reading)
    (mintedRow row next : User)
    (foundMinted : (users minting.store).find? userId = some mintedRow)
    (found : (users before.store).find? userId = some row)
    (becomes : (users after.store).find? userId = some next)
    (changes : next.passwordHash ≠ row.passwordHash ∨ next.role ≠ row.role)
    (minted : Time) :
    Refused libraries
      (accessToken libraries settings minted userId mintedRow.tokenVersion)
      reading.store := by
  have start := credential_disciplined idle reachable
  have here := credential_disciplined idle (reachable.trans earlier)
  have afterwards := credential_disciplined idle
    (.step (reachable.trans earlier) commits admitted)
  obtain ⟨old, oldFound, olderVersion⟩ :=
    run_version start earlier mintedRow foundMinted
  cases oldFound.symm.trans found
  have guaranteed := (here.guaranteed commits
    (admits_all userId label choice _ admitted)).2
  have moved := version_moves guaranteed.1.1 guaranteed.2 admitted found
    becomes changes
  obtain ⟨final, finalFound, laterVersion⟩ :=
    run_version afterwards later next becomes
  exact refused_of_version keeps finalFound (by omega) minted

end Runs

/-! ## Two runs -/

def makeGuest : Py Unit :=
  serve (updateUser sampleLibraries { role := some .guest } 2)

def changePassword : Py Unit :=
  serve (updateUser sampleLibraries { password := some "secret" } 2)

def play (turns : List (Turn university))
    (config : Config university (Except Exc Unit)) :
    Config university (Except Exc Unit) :=
  config.played (credentialSystem sampleLibraries .default)
    (fun label _ store => !writesStaleVersion 2 label store) turns

theorem play_run {turns : List (Turn university)}
    {config : Config university (Except Exc Unit)}
    (possible : (config.play (credentialSystem sampleLibraries .default)
      (fun label _ store => !writesStaleVersion 2 label store)
      turns).isSome = true) :
    Run (credentialSystem sampleLibraries .default) (readsCurrent 2) config
      (play turns config) :=
  Config.played_run _ _ (readsCurrent 2)
    (fun _ _ _ checked => by simpa [readsCurrent] using checked) turns config
    possible

theorem sample_reachable (condition : Condition university)
    (programs : List (Py Unit))
    (requests : ∀ program ∈ programs,
      program = makeGuest ∨ program = changePassword) :
    Reachable (credentialSystem sampleLibraries .default) condition
      sampleStore ⟨sampleStore, programs⟩ := by
  refine arrivals_run _ _ _ programs ?_
  intro program member
  rcases requests program member with rfl | rfl
  · exact .updateUser { role := some .guest } 2
  · exact .updateUser { password := some "secret" } 2

theorem keeps_claims : KeepsClaims sampleLibraries := by
  intro now sub ver exp payload decoded
  simp only [sampleLibraries] at decoded
  by_cases first : sub = "2" ∧ ver = 0
  · obtain ⟨rfl, rfl⟩ := first
    cases decoded
    exact ⟨rfl, rfl⟩
  by_cases second : sub = "2" ∧ ver = 1
  · obtain ⟨rfl, rfl⟩ := second
    cases decoded
    exact ⟨rfl, rfl⟩
  · simp [first, second] at decoded

/-- One role change, from its read to its commit. -/
def asked : Config university (Except Exc Unit) :=
  ⟨sampleStore, [makeGuest]⟩

def read : Config university (Except Exc Unit) := play (plain [0]) asked

def changed : Config university (Except Exc Unit) := play (plain [0]) read

def guestChange : UserChange :=
  { role := some .guest, tokenVersion := some 1 }

theorem change_commits :
    Transition (credentialSystem sampleLibraries .default) read
      (.act 0 (.account (.updateUser sampleUser guestChange)) {}) changed :=
  read.played_transition (credentialSystem sampleLibraries .default)
    (fun label _ store => !writesStaleVersion 2 label store) ⟨0, {}⟩
    (by decide +kernel) (by decide +kernel)

theorem older_tokens_refused_changed :
    Refused sampleLibraries
      (accessToken sampleLibraries .default 0 2 sampleUser.tokenVersion)
      changed.store :=
  older_tokens_refused sampleLibraries .default keeps_claims sampleStore
    (fun _ => rfl) 2 asked read changed changed
    (sample_reachable _ [makeGuest] (by simp))
    (play_run (by decide +kernel)) 0 _ {} change_commits (by decide +kernel)
    (.refl changed) sampleUser sampleUser
    (guestChange.apply sampleUser) (by decide +kernel) (by decide +kernel)
    (by decide +kernel) (by decide) 0

/-- The password change reads version 0 and the role change commits version
1. -/
def between : Config university (Except Exc Unit) :=
  play (plain [0, 1, 1, 0]) ⟨sampleStore, [makeGuest, changePassword]⟩

/-- The password change commits version 1 again. -/
def overlapped : Config university (Except Exc Unit) :=
  between.played (credentialSystem sampleLibraries .default)
    accept (plain [1])

def guestUser : User := guestChange.apply sampleUser

def secretChange : UserChange :=
  { passwordHash := some "secret", tokenVersion := some 1 }

theorem overlap_commits :
    Transition (credentialSystem sampleLibraries .default) between
      (.act 1 (.account (.updateUser sampleUser secretChange)) {})
      overlapped :=
  between.played_transition (credentialSystem sampleLibraries .default)
    accept ⟨1, {}⟩ (by decide +kernel) (by decide +kernel)

theorem second_decoded :
    decodeAccessToken sampleLibraries 0
      (accessToken sampleLibraries .default 0 2 guestUser.tokenVersion) =
        some (2, 1) := by
  have parsed : int "2" = some 2 := int_repr 2
  have minted : accessToken sampleLibraries .default 0 2
      guestUser.tokenVersion = "second" := by decide +kernel
  rw [minted]
  simp [decodeAccessToken, sampleLibraries, asInt, parsed]

/-- A token minted between two overlapping changes survives the second. -/
theorem overlapping_changes_keep_token :
    ¬ ∀ (libraries : Libraries) (settings : Settings),
      KeepsClaims libraries → ∀ (initial : Store),
      (∀ userId, initial.userLocks userId = none) → ∀ (userId : Id)
      (minting before after reading : Config university (Except Exc Unit)),
      Reachable (credentialSystem libraries settings) anything initial
        minting →
      Run (credentialSystem libraries settings) anything minting before →
      ∀ (thread : Nat) (label : Label) (choice : Choice),
      Transition (credentialSystem libraries settings) before
        (.act thread label choice) after →
      Run (credentialSystem libraries settings) anything after reading →
      ∀ (mintedRow row next : User),
      (users minting.store).find? userId = some mintedRow →
      (users before.store).find? userId = some row →
      (users after.store).find? userId = some next →
      next.passwordHash ≠ row.passwordHash ∨ next.role ≠ row.role →
      ∀ minted : Time, Refused libraries
        (accessToken libraries settings minted userId mintedRow.tokenVersion)
        reading.store := by
  intro refuses
  have reachable : Reachable (credentialSystem sampleLibraries .default)
      anything sampleStore between :=
    (sample_reachable anything [makeGuest, changePassword] (by simp)).trans
      (play_run (by decide +kernel)).anything
  have refused := refuses sampleLibraries .default keeps_claims sampleStore
    (fun _ => rfl) 2 between between overlapped overlapped reachable
    (.refl between) 1 _ {} overlap_commits (.refl overlapped) guestUser
    guestUser (secretChange.apply guestUser) (by decide +kernel)
    (by decide +kernel) (by decide +kernel) (by decide) 0
  obtain ⟨left, answers⟩ := refused 0 0 {} rfl
  have admitted : Prog.solo 0 (checkToken sampleLibraries 0
      (accessToken sampleLibraries .default 0 2 guestUser.tokenVersion)).run
      (fun _ => {}) overlapped.store =
        some (Except.ok (secretChange.apply guestUser), overlapped.store,
          fun _ => {}) := by
    simp only [checkToken, second_decoded]
    rfl
  rw [answers] at admitted
  cases admitted

end SystemUni.Accounts.Revocation
