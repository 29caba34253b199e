import SystemUni.Routers.Access
import SystemUni.Students.Service
import SystemUni.Students.Writers

/-!
# The cache in sequential use

Each request of the API finishes before the next one starts.  A writer of a
student deletes the entry after its commit; `delete_user` writes the linked
student as well and does not.
-/

set_option autoImplicit false

namespace SystemUni.Students.Coherence

open Interleaving Relational
open SystemUni.Runtime.Errors
open SystemUni.Runtime.External
open SystemUni.Runtime.Statements
open SystemUni.Runtime.Rules
open SystemUni.Models.Rows
open SystemUni.Models.Changes
open SystemUni.Models.Schema
open SystemUni.Security.Auth
open SystemUni.Crud.User
open SystemUni.Crud.Student
open SystemUni.Schemas.Fields
open SystemUni.Routers.Api
open SystemUni.Routers.Frame
open SystemUni.Routers.Access
open SystemUni.Accounts.Frame
open SystemUni.Accounts.Writers
open SystemUni.Students.Discipline
open SystemUni.Students.Requests
open SystemUni.Students.Writers

/-- The entry is the dumped current row of the student, which the response
schema accepts. -/
def Current (libraries : Libraries) (tables : Tables) (studentId : Id)
    (entry : CacheEntry) : Prop :=
  ∃ row, tables.students.find? studentId = some row ∧
    studentResponse libraries.emailStr row = true ∧
    entry.json = libraries.dumpStudent (.ofRow row)

/-- Every entry is current, and its student can be looked up. -/
def Coherent (libraries : Libraries) (store : Store) : Prop :=
  ∀ studentId entry, store.cache studentId = some entry →
    fitsInteger studentId = true ∧
      Current libraries (committed store) studentId entry

/-! ## What keeps the cache coherent -/

section Steps

variable {libraries : Libraries} {store later : Store}

theorem Coherent.unchanged (coherent : Coherent libraries store)
    (sameCache : later.cache = store.cache)
    (sameRows : (committed later).students = (committed store).students) :
    Coherent libraries later := by
  intro studentId entry cached
  rw [sameCache] at cached
  obtain ⟨fits, row, found, json⟩ := coherent studentId entry cached
  refine ⟨fits, row, ?_, json⟩
  rw [sameRows]
  exact found

theorem Coherent.of_view (coherent : Coherent libraries store)
    (same : studentView later = studentView store) :
    Coherent libraries later :=
  coherent.unchanged (congrArg (fun view => view.2.1) same)
    (congrArg Prod.fst same)

/-- One student may have been written; its entry is gone. -/
theorem Coherent.cleared (coherent : Coherent libraries store)
    {studentId : Id} (gone : later.cache studentId = none)
    (entries : ∀ other, other ≠ studentId →
      later.cache other = store.cache other)
    (rows : ∀ other, other ≠ studentId →
      (committed later).students.find? other =
        (committed store).students.find? other) :
    Coherent libraries later := by
  intro other entry cached
  by_cases same : other = studentId
  · rw [same, gone] at cached
    cases cached
  · rw [entries other same] at cached
    obtain ⟨fits, row, found, json⟩ := coherent other entry cached
    refine ⟨fits, row, ?_, json⟩
    rw [rows other same]
    exact found

theorem Coherent.enlisted (coherent : Coherent libraries store)
    {student : StudentCreate} (unchanged : later.cache = store.cache)
    (enlisted : Enlisted student (committed store) (committed later)) :
    Coherent libraries later := by
  obtain ⟨choice, fresh, isAfter⟩ := enlisted
  have gone : later.cache (student.row choice).id = none := by
    by_contra cached
    obtain ⟨entry, found⟩ := Option.ne_none_iff_exists'.mp cached
    rw [unchanged] at found
    obtain ⟨_, row, present, _⟩ := coherent _ entry found
    rw [fresh] at present
    cases present
  refine coherent.cleared gone (fun _ _ => congrFun unchanged _) ?_
  intro other different
  rw [isAfter]
  exact (Table.find?_insert _ _ fresh other).trans (if_neg different.symm)

end Steps

/-! ## Writers of one student -/

theorem saved_others {student : Student} {change : StudentChange}
    {before after : Tables} (saved : Saved student change before after) :
    ∀ other, other ≠ student.id →
      after.students.find? other = before.students.find? other := by
  intro other different
  rcases saved with ⟨_, rfl⟩ | ⟨_, rfl⟩
  · rfl
  · exact Table.find?_updateWhere_other before.students _
      (StudentChange.apply_id _ _) different

theorem studentUpdated_others {studentUpdate : StudentUpdate}
    {studentId : Id} {before after : Tables}
    (updated : StudentUpdated studentUpdate studentId before after) :
    ∀ other, other ≠ studentId →
      after.students.find? other = before.students.find? other := by
  obtain ⟨student, found, saved⟩ := updated
  rw [← Table.key_of_find? found]
  exact saved_others saved

theorem studentLinked_others {studentId userId : Id} {before after : Tables}
    (linked : StudentLinked studentId userId before after) :
    ∀ other, other ≠ studentId →
      after.students.find? other = before.students.find? other := by
  obtain ⟨student, found, saved⟩ := linked
  rw [← Table.key_of_find? found]
  exact saved_others saved

theorem studentErased_others {studentId : Id} {before after : Tables}
    (erased : StudentErased studentId before after) :
    ∀ other, other ≠ studentId →
      after.students.find? other = before.students.find? other := by
  intro other different
  rw [erased]
  exact (Table.find?_erase before.students studentId other).trans
    (if_neg different)

section Specifications

variable {libraries : Libraries} {condition : Condition university} {me : Nat}
  {store : Store} {α : Type}

/-- The request leaves the cache coherent, whether it returns or raises. -/
abbrev Keeps (libraries : Libraries) (condition : Condition university)
    (me : Nat) (request : Py α) (store : Store) : Prop :=
  Yields condition me request (fun _ => Coherent libraries)
    (fun _ => Coherent libraries) store

theorem keeps_of_leaves {request : Py α} (coherent : Coherent libraries store)
    (leaves : Leaves studentView request) :
    Keeps libraries condition me request store :=
  yields_mono (yields_of_leaves leaves) (fun _ _ => coherent.of_view)
    fun _ _ => coherent.of_view

theorem keeps_silent {request : Py α}
    (keeps : Keeps libraries condition me request store) :
    Keeps libraries condition me (silent request) store :=
  yields_bind (yields_mono keeps (fun _ _ kept => yields_pure kept)
    fun _ _ kept => kept)

/-- The write is invalidated, or it failed before it was committed, or there
was no entry. -/
theorem keeps_write {request : Py α} {studentId : Id} {done : Tables → Prop}
    (coherent : Coherent libraries store) (up : RedisUp condition)
    (safe : store.cache studentId ≠ none → ¬ Unreliable condition)
    (others : ∀ after, done after → ∀ other, other ≠ studentId →
      after.students.find? other = (committed store).students.find? other)
    (writes : Yields condition me request
      (fun _ later => Cleared condition studentId store.cache later.cache ∧
        done (committed later))
      (fun _ later => FailedWrite condition done store later) store) :
    Keeps libraries condition me request store := by
  refine yields_mono writes ?_ ?_
  · rintro _ later ⟨⟨entries, gone⟩, isDone⟩
    exact coherent.cleared (gone up) entries (others _ isDone)
  · rintro _ later ⟨unchanged, same | ⟨unreliable, isDone⟩⟩
    · exact coherent.unchanged unchanged (congrArg Tables.students same)
    · have noEntry : store.cache studentId = none := by
        by_contra cached
        exact safe cached unreliable
      refine coherent.cleared ?_ (fun _ _ => congrFun unchanged _)
        (others _ isDone)
      rw [unchanged]
      exact noEntry

theorem keeps_createStudent (coherent : Coherent libraries store)
    (student : StudentCreate) :
    Keeps libraries condition me (createStudent student) store := by
  refine yields_mono yields_createStudent ?_ ?_
  · rintro _ later ⟨unchanged, enlisted⟩
    exact coherent.enlisted unchanged enlisted
  · rintro _ later ⟨unchanged, same | ⟨_, enlisted⟩⟩
    · exact coherent.unchanged unchanged (congrArg Tables.students same)
    · exact coherent.enlisted unchanged enlisted

/-- The linked student of the account that goes has no entry. -/
theorem keeps_deleteUser (coherent : Coherent libraries store) {userId : Id}
    (safe : ∀ user student,
      (committed store).users.find? userId = some user →
      AdminRemains user (committed store) →
      linkedStudent userId (committed store) = some student →
      store.cache student.id = none) :
    Keeps libraries condition me (deleteUser userId) store := by
  have removed (later : Store) (unchanged : later.cache = store.cache)
      (removes : Removed userId (committed store) (committed later)) :
      Coherent libraries later := by
    obtain ⟨user, found, remains, flushed⟩ := removes
    obtain ⟨unlinked, unlinks, isAfter⟩ := flushDeleteUser_ok flushed
    have sameRows : (committed later).students = unlinked.students := by
      rw [isAfter]
    rcases unlinkStudent_ok unlinks with
      ⟨_, same⟩ | ⟨student, row, linked, _, _, written⟩
    · refine coherent.unchanged unchanged ?_
      rw [sameRows, same]
    · have gone : later.cache student.id = none := by
        rw [unchanged]
        exact safe user student found remains linked
      refine coherent.cleared gone (fun _ _ => congrFun unchanged _) ?_
      · intro other different
        rw [sameRows, written]
        exact Table.find?_updateWhere_other _ _ (StudentChange.apply_id _ _)
          different
  refine yields_mono yields_removeUser ?_ ?_
  · rintro _ later ⟨unchanged, removes⟩
    exact removed later unchanged removes
  · rintro _ later ⟨unchanged, same | removes⟩
    · exact coherent.unchanged unchanged (congrArg Tables.students same)
    · exact removed later unchanged removes

/-! ## Reading -/

theorem yields_lookUpStudent {studentId : Id} {caches : Bool}
    {post : Option StudentResponse → Store → Prop} {fail : Exc → Store → Prop}
    (returns : ∀ cached, post cached store) :
    Yields condition me (lookUpStudent libraries studentId caches) post fail
      store := by
  cases caches with
  | true => exact yields_internal fun choice _ => returns _
  | false => exact yields_pure (returns none)

/-- What is stored is the row that has just been read. -/
theorem keeps_writeCachedStudent (coherent : Coherent libraries store)
    {studentId : Id} {row : Student} (fits : fitsInteger studentId = true)
    (found : (committed store).students.find? studentId = some row)
    (valid : studentResponse libraries.emailStr row = true) :
    Keeps libraries condition me
      (writeCachedStudent libraries studentId (.ofRow row)) store := by
  refine yields_command fun choice _ => ?_
  intro other entry cached
  change (if choice.redisUp then fun other =>
      if other = studentId then
        some ⟨libraries.dumpStudent (.ofRow row), choice.now + 60⟩
      else store.cache other
    else store.cache) other = some entry at cached
  by_cases up : choice.redisUp = true
  · rw [if_pos up] at cached
    by_cases same : other = studentId
    · rw [if_pos same] at cached
      rw [same]
      exact ⟨fits, row, found, valid, by rw [← Option.some.inj cached]⟩
    · rw [if_neg same] at cached
      exact coherent other entry cached
  · rw [if_neg up] at cached
    exact coherent other entry cached

theorem keeps_readStudent (coherent : Coherent libraries store)
    (studentId : Id) (user : User) :
    Keeps libraries condition me (readStudent libraries studentId user)
      store := by
  refine yields_bind (yields_internal fun choice _ => ?_)
  simp only
  split
  · exact yields_throw coherent
  refine yields_bind (yields_lookUpStudent fun cached => ?_)
  cases cached with
  | some response => exact yields_pure coherent
  | none =>
      refine yields_bind (yields_select (fun _ _ => coherent) fun fits => ?_)
      cases seen : (store.db.tables.students.find? studentId).filter
          (maySee user) with
      | none => exact yields_throw coherent
      | some row =>
          have found := (Option.filter_eq_some_iff.mp seen).1
          simp only [modelValidate_bind]
          split
          · rename_i valid
            split
            · exact yields_bind (yields_mono
                (keeps_writeCachedStudent coherent fits found valid)
                (fun _ _ kept => yields_pure kept) fun _ _ kept => kept)
            · exact yields_pure coherent
          · exact yields_throw coherent

end Specifications

/-! ## All requests -/

/-- The request leaves no outdated entry: no call to the database fails in a
write of a student that has one, and no account goes whose student has one. -/
def LeavesNoEntry (libraries : Libraries) (condition : Condition university)
    (credentials : Option String) (store : Store) (route : Route) : Prop :=
  ∀ admin, Requester libraries condition credentials admin store →
    admin.role = .admin →
    match route with
    | .student (.update _ studentId) =>
        store.cache studentId ≠ none → ¬ Unreliable condition
    | .student (.delete studentId) =>
        store.cache studentId ≠ none → ¬ Unreliable condition
    | .linkStudentUser studentId _ =>
        store.cache studentId ≠ none → ¬ Unreliable condition
    | .user (.delete userId) => ∀ user student,
        (committed store).users.find? userId = some user →
        AdminRemains user (committed store) →
        linkedStudent userId (committed store) = some student →
        store.cache student.id = none
    | _ => True

section Routes

variable {libraries : Libraries} {settings : Settings}
  {condition : Condition university} {me : Nat} {store : Store}
  {credentials : Option String}

theorem keeps_guarded {allowedRoles : List UserRole} {handler : User → Py Unit}
    (coherent : Coherent libraries store)
    (keeps : ∀ user, user.role ∈ allowedRoles →
      Requester libraries condition credentials user store →
      Keeps libraries condition me (handler user) store) :
    Keeps libraries condition me
      (requireRoles libraries allowedRoles credentials >>= handler) store := by
  refine yields_bind (yields_mono (yields_requireRoles allowedRoles) ?_ ?_)
  · rintro user later ⟨rfl, allowed, requester⟩
    exact keeps user allowed requester
  · rintro _ later rfl
    exact coherent

theorem studentView_onlyStudents : OnlyStudents studentView where
  lock _ _ _ := rfl
  release _ _ := rfl
  tables store db same := by
    change (db.tables.students, store.cache, store.returned) = _
    rw [same]
    rfl

theorem keeps_studentRoute (coherent : Coherent libraries store)
    (up : RedisUp condition)
    (route : TableRoute StudentCreate StudentUpdate)
    (safe : LeavesNoEntry libraries condition credentials store
      (.student route)) :
    Keeps libraries condition me
      ((studentEndpoints libraries).program libraries credentials route)
      store := by
  cases route with
  | create student =>
      exact keeps_guarded coherent fun _ _ _ =>
        keeps_silent (keeps_createStudent coherent student)
  | read studentId =>
      exact keeps_guarded coherent fun user _ _ =>
        keeps_silent (keeps_readStudent coherent studentId user)
  | list skip limit =>
      exact keeps_guarded coherent fun user _ _ => keeps_of_leaves coherent
        (leaves_silent (leaves_readStudents user skip limit))
  | update studentUpdate studentId =>
      refine keeps_guarded coherent fun admin allowed requester => ?_
      have isAdmin : admin.role = .admin := List.mem_singleton.mp allowed
      exact keeps_silent (keeps_write coherent up
        (safe admin requester isAdmin)
        (fun _ updated => studentUpdated_others updated) yields_updateStudent)
  | delete studentId =>
      refine keeps_guarded coherent fun admin allowed requester => ?_
      have isAdmin : admin.role = .admin := List.mem_singleton.mp allowed
      exact keeps_silent (keeps_write coherent up
        (safe admin requester isAdmin)
        (fun _ erased => studentErased_others erased) yields_deleteStudent)

theorem keeps_userRoute (coherent : Coherent libraries store)
    (route : TableRoute Empty UserUpdate)
    (safe : LeavesNoEntry libraries condition credentials store
      (.user route)) :
    Keeps libraries condition me
      ((userEndpoints libraries).program libraries credentials route)
      store := by
  cases route with
  | create payload => exact nomatch payload
  | read userId =>
      exact keeps_guarded coherent fun _ _ _ => keeps_of_leaves coherent
        (leaves_silent (leaves_readUser userId))
  | list skip limit =>
      exact keeps_guarded coherent fun _ _ _ => keeps_of_leaves coherent
        (leaves_silent (leaves_readUsers skip limit))
  | update userUpdate userId =>
      exact keeps_guarded coherent fun _ _ _ => keeps_of_leaves coherent
        (leaves_silent (leaves_updateUser studentView_beside userUpdate
          userId))
  | delete userId =>
      refine keeps_guarded coherent fun admin allowed requester => ?_
      have isAdmin : admin.role = .admin := List.mem_singleton.mp allowed
      exact keeps_silent (keeps_deleteUser coherent
        (safe admin requester isAdmin))

theorem leaves_registration (user : UserRegister) :
    Leaves studentView (Crud.User.registerUser libraries user) := by
  refine Students.Frame.leaves_registerUser studentView_beside.toBesideLocks ?_
    user
  intro store row db inserted
  obtain ⟨fresh, isAfter⟩ := insertUser_ok inserted
  exact studentView_onlyStudents.tables store db (by rw [isAfter])

/-- The step: every request keeps the cache coherent. -/
theorem keeps_route (coherent : Coherent libraries store)
    (up : RedisUp condition) (route : Route)
    (safe : LeavesNoEntry libraries condition credentials store route) :
    Keeps libraries condition me
      (route.program libraries settings credentials) store := by
  have only := studentView_onlyStudents
  cases route with
  | healthCheck =>
      exact keeps_of_leaves coherent (leaves_silent leaves_healthCheck)
  | getTranscript studentId =>
      exact keeps_guarded coherent fun user _ _ => keeps_of_leaves coherent
        (leaves_silent (leaves_getTranscript studentId user))
  | exportTranscriptAsync studentId =>
      exact keeps_guarded coherent fun user _ _ => keeps_of_leaves coherent
        (leaves_silent (leaves_exportTranscriptAsync (fun _ _ _ => rfl)
          studentId user))
  | getJobStatus jobId =>
      exact keeps_guarded coherent fun user _ _ => keeps_of_leaves coherent
        (leaves_silent (leaves_getJobStatus jobId user))
  | college route =>
      exact keeps_of_leaves coherent
        ((colleges_unseen only).leaves libraries credentials route)
  | course route =>
      exact keeps_of_leaves coherent
        ((courses_unseen only).leaves libraries credentials route)
  | courseOffering route =>
      exact keeps_of_leaves coherent
        ((courseOfferings_unseen only).leaves libraries credentials route)
  | department route =>
      exact keeps_of_leaves coherent
        ((departments_unseen only).leaves libraries credentials route)
  | teacher route =>
      exact keeps_of_leaves coherent
        ((teachers_unseen only).leaves libraries credentials route)
  | student route => exact keeps_studentRoute coherent up route safe
  | linkStudentUser studentId userId =>
      refine keeps_guarded coherent fun admin allowed requester => ?_
      have isAdmin : admin.role = .admin := List.mem_singleton.mp allowed
      exact keeps_silent (keeps_write coherent up
        (safe admin requester isAdmin)
        (fun _ linked => studentLinked_others linked) yields_linkStudentToUser)
  | enrollment route =>
      exact keeps_of_leaves coherent
        ((enrollments_unseen only).leaves libraries credentials route)
  | courseSchedule route =>
      exact keeps_of_leaves coherent
        ((courseSchedules_unseen only).leaves libraries credentials route)
  | getCurrentUser =>
      exact keeps_of_leaves coherent
        (leaves_silent (leaves_getCurrentUser credentials))
  | updateCurrentUser userUpdate =>
      exact keeps_of_leaves coherent
        (leaves_bind (leaves_getCurrentUser credentials) fun user =>
          leaves_silent (leaves_updateUserMe studentView_beside userUpdate
            user))
  | getCurrentStudent =>
      exact keeps_of_leaves coherent
        (leaves_bind (leaves_getCurrentUser credentials) fun user =>
          leaves_silent (leaves_getCurrentStudentEndpoint user))
  | user route => exact keeps_userRoute coherent route safe
  | registerUser user =>
      exact keeps_of_leaves coherent (leaves_bind leaves_limited fun _ =>
        leaves_silent (leaves_registration user))
  | loginUser userLogin =>
      exact keeps_of_leaves coherent (leaves_bind leaves_limited fun _ =>
        leaves_silent (leaves_loginUser userLogin))

end Routes

/-! ## What administrators read -/

/-- What a read by an administrator is answered out of the database. -/
def databaseAnswer (libraries : Libraries) (studentId : Id)
    (tables : Tables) : Except Exc StudentResponse :=
  if fitsInteger studentId then
    match tables.students.find? studentId with
    | none => .error studentNotFound
    | some row =>
        if studentResponse libraries.emailStr row then .ok (.ofRow row)
        else .error validationError
  else .error (.sql .dataError SqlError.dataError.typeName)

/-- While the database can be reached, the read ends with this answer. -/
def ReadAnswers (libraries : Libraries) (me : Nat) (studentId : Id)
    (admin : User) (answer : Except Exc StudentResponse) (store : Store) :
    Prop :=
  Finishes callSucceeds me (readStudent libraries studentId admin)
    (fun response _ => answer = .ok response)
    (fun exc _ => answer = .error exc) store

section Reads

variable {libraries : Libraries} {me : Nat} {store : Store} {studentId : Id}

theorem Coherent.answers (coherent : Coherent libraries store)
    (loads : LoadsDumped libraries) {entry : CacheEntry}
    {response : StudentResponse}
    (cached : store.cache studentId = some entry)
    (loaded : libraries.loadStudent entry.json = some response) :
    databaseAnswer libraries studentId (committed store) = .ok response := by
  obtain ⟨fits, row, found, valid, json⟩ := coherent studentId entry cached
  have isRow : response = .ofRow row := by
    rw [json] at loaded
    exact loads _ _ loaded
  simp only [databaseAnswer, if_pos fits, found, valid, if_true, isRow]

theorem finishes_lookUpStudent (coherent : Coherent libraries store)
    (loads : LoadsDumped libraries) {caches : Bool}
    {post : Option StudentResponse → Store → Prop} {fail : Exc → Store → Prop}
    (returns : ∀ cached, (∀ response, cached = some response →
      databaseAnswer libraries studentId (committed store) = .ok response) →
      post cached store) :
    Finishes callSucceeds me (lookUpStudent libraries studentId caches) post
      fail store := by
  cases caches with
  | false => exact finishes_pure none (returns none nofun)
  | true =>
      refine finishes_command fun choice _ => returns _ ?_
      intro response looked
      obtain ⟨entry, kept, loads_⟩ := Option.bind_eq_some_iff.mp looked
      have cached := (Option.filter_eq_some_iff.mp kept).1
      split at loads_
      · cases loads_
      · exact coherent.answers loads cached loads_

theorem reads_database (coherent : Coherent libraries store)
    (loads : LoadsDumped libraries) {admin : User} (role : admin.role = .admin) :
    ReadAnswers libraries me studentId admin
      (databaseAnswer libraries studentId (committed store)) store := by
  have sees : ∀ row : Student, maySee admin row = true := by
    intro row
    simp [maySee, role]
  refine finishes_bind (finishes_command fun choice _ => ?_)
  simp only [role, reduceCtorEq, if_false, decide_true, Bool.true_and]
  refine finishes_bind (finishes_lookUpStudent coherent loads ?_)
  intro cached answers
  cases cached with
  | some response => exact finishes_pure response (answers response rfl)
  | none =>
      refine finishes_bind (finishes_select (fun fits => ?_) fun misfit => ?_)
      · cases found : store.db.tables.students.find? studentId with
        | none =>
            refine finishes_throw _ ?_
            change databaseAnswer libraries studentId store.db.tables = _
            rw [databaseAnswer, if_pos fits, found]
        | some row =>
            have answer : databaseAnswer libraries studentId
                (committed store) =
                  if studentResponse libraries.emailStr row then
                    .ok (.ofRow row)
                  else .error validationError := by
              change databaseAnswer libraries studentId store.db.tables = _
              rw [databaseAnswer, if_pos fits, found]
            rw [Option.filter_some, if_pos (sees row)]
            simp only [modelValidate_bind]
            split
            · rename_i valid
              rw [if_pos valid] at answer
              split
              · exact finishes_bind (finishes_command fun _ _ =>
                  finishes_pure _ answer)
              · exact finishes_pure _ answer
            · rename_i invalid
              rw [if_neg invalid] at answer
              exact finishes_throw _ answer
      · rw [databaseAnswer, if_neg (by simp [misfit])]

end Reads

/-! ## Runs -/

/-- Requests with Redis available that leave no outdated entry. -/
def coherentRequest (libraries : Libraries)
    (condition : Condition university) (credentials : Option String)
    (store : Store) (route : Route) : Prop :=
  RedisUp condition ∧
    LeavesNoEntry libraries condition credentials store route

theorem run_coherent {libraries : Libraries} {settings : Settings}
    {first last : Store} (initially : Coherent libraries first)
    (run : Run libraries settings (coherentRequest libraries) first last) :
    Coherent libraries last := by
  refine run.invariant (Coherent libraries) initially ?_
  rintro condition store me _ coherent ⟨credentials, route, rfl, up, safe⟩
  have served : Yields condition me (route.serve libraries settings credentials)
      (fun _ => Coherent libraries) (fun _ => Coherent libraries) store :=
    yields_getDb (fun _ kept => kept) (keeps_route coherent up route safe)
  refine ensures_mono _ store served ?_
  intro result later holds
  cases result with
  | ok done => exact holds
  | error exc => exact holds

theorem coherent_of_empty {libraries : Libraries} {store : Store}
    (empty : ∀ studentId, store.cache studentId = none) :
    Coherent libraries store := by
  intro studentId entry cached
  rw [empty studentId] at cached
  cases cached

def withoutCache (store : Store) : Store :=
  { store with cache := fun _ => none }

/-- In every run in which no account is deleted whose student has an entry and
no write of such a student is cut short by the database, every entry is the
current row, and an administrator reads what an empty cache would answer. -/
theorem cache_coherent (libraries : Libraries) (settings : Settings)
    (loads : LoadsDumped libraries) (initial : Store)
    (empty : ∀ studentId, initial.cache studentId = none) (last : Store)
    (run : Run libraries settings (coherentRequest libraries) initial last) :
    (∀ studentId entry, last.cache studentId = some entry →
      ∃ row, (committed last).students.find? studentId = some row ∧
        entry.json = libraries.dumpStudent (.ofRow row) ∧
        ∀ response, libraries.loadStudent entry.json = some response →
          response = .ofRow row) ∧
    ∀ me studentId admin, admin.role = .admin →
      ∃ answer, ReadAnswers libraries me studentId admin answer last ∧
        ReadAnswers libraries me studentId admin answer
          (withoutCache last) := by
  have coherent := run_coherent (coherent_of_empty empty) run
  refine ⟨?_, ?_⟩
  · intro studentId entry cached
    obtain ⟨_, row, found, _, json⟩ := coherent studentId entry cached
    refine ⟨row, found, json, fun response loaded => ?_⟩
    rw [json] at loaded
    exact loads _ _ loaded
  · intro me studentId admin role
    have emptied : Coherent libraries (withoutCache last) :=
      coherent_of_empty fun _ => rfl
    exact ⟨databaseAnswer libraries studentId (committed last),
      reads_database coherent loads role, reads_database emptied loads role⟩

/-! ## A linked student -/

/-- One token, that of user 1, and one text, that of the linked student. -/
def cachingLibraries : Libraries :=
  { sampleLibraries with
    decodeToken := fun _ token =>
      if token = "root" then some ⟨some "1", some (.int 0)⟩ else none
    dumpStudent := fun response =>
      if response = .ofRow linkedSample then "mona" else ""
    loadStudent := fun text =>
      if text = "mona" then some (.ofRow linkedSample) else none }

theorem caching_loads : LoadsDumped cachingLibraries := by
  intro response loaded dumped
  simp only [cachingLibraries] at dumped
  by_cases mona : response = .ofRow linkedSample
  · rw [if_pos mona] at dumped
    simp only [if_true, Option.some.injEq] at dumped
    rw [← dumped, mona]
  · rw [if_neg mona] at dumped
    simp at dumped

def checkRoot : Py User := do
  let user ← query fun store => store.db.tables.users.find? 1
  match admitUser user 0 with
  | .error exc => throw exc
  | .ok user => return user

def requireRoot (allowedRoles : List UserRole) : Py User := do
  let user ← now >>= fun _ => checkRoot
  if !allowedRoles.contains user.role then throw Security.Auth.forbidden
  return user

theorem requireRoot_eq (allowedRoles : List UserRole) :
    requireRoles cachingLibraries allowedRoles (some "root") =
      requireRoot allowedRoles := by
  have parsed : int "1" = some 1 := int_repr 1
  have decoded : ∀ now, decodeAccessToken cachingLibraries now "root" =
      some (1, 0) := by
    intro now
    simp [decodeAccessToken, cachingLibraries, asInt, parsed]
  simp only [requireRoles, getCurrentUser, checkToken, decoded]
  rfl

def rootReads : Py Unit :=
  getDb do
    let currentUser ← requireRoot adminOrUser
    silent (readStudent cachingLibraries 1 currentUser)

def rootDeletes : Py Unit :=
  getDb do
    let _ ← requireRoot [.admin]
    silent (deleteUser 2)

theorem rootReads_eq :
    Route.serve cachingLibraries .default (some "root") (.student (.read 1)) =
      rootReads := by
  simp only [Route.serve, Route.program, TableEndpoints.program,
    requireRoot_eq]
  rfl

theorem rootDeletes_eq :
    Route.serve cachingLibraries .default (some "root") (.user (.delete 2)) =
      rootDeletes := by
  simp only [Route.serve, Route.program, TableEndpoints.program, requireAdmin,
    requireRoot_eq]
  rfl

def allUp : Condition university :=
  fun _ choice _ => choice.call = .done ∧ choice.redisUp = true

theorem allUp_redisUp : RedisUp allUp := fun _ _ _ up => up.2

theorem allUp_reliable : ¬ Unreliable allUp := by
  rintro ⟨label, store, choice, up, failed⟩
  exact failed up.1

def defaults (_ : Nat) : Choice := {}

def cachedStore : Store := rootReads.run.settled 0 defaults linkedStore

theorem cached_run {allowed : Condition university → Option String → Store →
      Route → Prop}
    (isAllowed : allowed allUp (some "root") linkedStore
      (.student (.read 1))) :
    Run cachingLibraries .default allowed linkedStore cachedStore := by
  obtain ⟨answer, runs⟩ := evaluates_settled allUp 0 rootReads.run defaults
    linkedStore (fun _ _ _ => ⟨rfl, rfl⟩) (by decide +kernel)
  have start : Run cachingLibraries .default allowed linkedStore linkedStore :=
    Episodes.refl _
  exact start.next 0 allUp _ answer
    ⟨some "root", .student (.read 1), by rw [rootReads_eq], isAllowed⟩ runs

theorem cache_coherent_read :
    ∃ row, (committed cachedStore).students.find? 1 = some row ∧
      "mona" = cachingLibraries.dumpStudent (.ofRow row) ∧
      ∀ response, cachingLibraries.loadStudent "mona" = some response →
        response = .ofRow row := by
  have coherent := (cache_coherent cachingLibraries .default caching_loads
    linkedStore (fun _ => rfl) cachedStore
    (cached_run ⟨allUp_redisUp, fun _ _ _ => trivial⟩)).1
  exact coherent 1 ⟨"mona", 60⟩ (by decide +kernel)

def deletedStore : Store := rootDeletes.run.settled 0 defaults cachedStore

theorem deleted_run {allowed : Condition university → Option String → Store →
      Route → Prop}
    (isAllowed : ∀ store route, allowed allUp (some "root") store route) :
    Run cachingLibraries .default allowed linkedStore deletedStore := by
  obtain ⟨answer, runs⟩ := evaluates_settled allUp 0 rootDeletes.run defaults
    cachedStore (fun _ _ _ => ⟨rfl, rfl⟩) (by decide +kernel)
  exact (cached_run (isAllowed _ _)).next 0 allUp _ answer
    ⟨some "root", .user (.delete 2), by rw [rootDeletes_eq], isAllowed _ _⟩
    runs

/-- What a read answers that runs alone while every call succeeds. -/
def readAlone (store : Store) : Option (Except Exc StudentResponse) :=
  ((readStudent cachingLibraries 1 sampleAdmin).run.solo 0 defaults store).map
    fun outcome => outcome.1

theorem readAlone_eq {answer : Except Exc StudentResponse} {store : Store}
    (reads : ReadAnswers cachingLibraries 0 1 sampleAdmin answer store) :
    readAlone store = some answer := by
  obtain ⟨value, after, left, runs, isAnswer⟩ :=
    alone_solo (readStudent cachingLibraries 1 sampleAdmin).run store reads
      defaults fun _ => rfl
  rw [readAlone, runs]
  cases value with
  | ok response => exact congrArg some isAnswer.symm
  | error exc => exact congrArg some isAnswer.symm

/-- Every call succeeds and Redis is up: after the account of a cached student
has been deleted, an administrator still reads the student as linked. -/
theorem deleted_user_leaves_entry :
    ¬ ∀ (libraries : Libraries) (settings : Settings),
      LoadsDumped libraries → ∀ initial : Store,
      (∀ studentId, initial.cache studentId = none) → ∀ last : Store,
      Run libraries settings
        (fun condition _ _ _ => RedisUp condition ∧ ¬ Unreliable condition)
        initial last →
      ∀ me studentId admin, admin.role = .admin →
        ∃ answer, ReadAnswers libraries me studentId admin answer last ∧
          ReadAnswers libraries me studentId admin answer
            (withoutCache last) := by
  intro alike
  obtain ⟨answer, cached, uncached⟩ := alike cachingLibraries .default
    caching_loads linkedStore (fun _ => rfl) deletedStore
    (deleted_run fun _ _ => ⟨allUp_redisUp, allUp_reliable⟩) 0 1 sampleAdmin
    rfl
  have differs : readAlone deletedStore ≠
      readAlone (withoutCache deletedStore) := by decide +kernel
  exact differs ((readAlone_eq cached).trans (readAlone_eq uncached).symm)

end SystemUni.Students.Coherence
