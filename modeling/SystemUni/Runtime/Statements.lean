import SystemUni.Interleaving.Alone
import SystemUni.Models.Changes
import SystemUni.Models.Jobs
import SystemUni.Models.Schema

/-!
# The shared store and the statements on it

All processes of the application share one store: the database, the Redis
cache and, for each running report execution, the two events its heartbeat
thread shares with it.  A statement together with its `COMMIT` is one atomic
step.  Statements of a transaction that is rolled back never reach the store.
-/

set_option autoImplicit false

namespace SystemUni.Runtime.Statements

open Interleaving
open SystemUni.Runtime.Errors
open SystemUni.Models.Rows
open SystemUni.Models.Changes
open SystemUni.Models.Jobs
open SystemUni.Models.Schema

/-! ## What the environment decides -/

/-- The fraction of its interval at which `random.uniform` lands, both end
points included. -/
structure Jitter where
  fraction : ℚ
  nonnegative : 0 ≤ fraction
  atMostOne : fraction ≤ 1

def Jitter.none : Jitter := ⟨0, le_refl 0, zero_le_one⟩

structure Choice where
  now : Time := 0
  call : CallOutcome := .done
  uuid : String := ""
  salt : String := ""
  /-- What a sequence hands out for the primary key of a new row. -/
  newId : Id := 0
  jitter : Jitter := .none
  /-- Job rows that other sessions hold locked; `SKIP LOCKED` passes over
  them. -/
  lockedJobs : List String := []
  /-- An exception out of a computation that no server takes part in. -/
  fault : Option Exc := none
  /-- Whether Redis can be reached for this call. -/
  redisUp : Bool := true

/-! ## The store -/

/-- `threading.Event`s of one execution: `report_found` and `stop_event`. -/
structure Events where
  reportFound : Bool := false
  stop : Bool := false
  deriving DecidableEq

/-- A text in the Redis cache and when it expires. -/
structure CacheEntry where
  json : String
  expiresAt : Time
  deriving DecidableEq

/-- What a finished write call left of a student row. -/
inductive WriteMark where
  | version (versionId : Nat)
  | deleted
  deriving DecidableEq

/-- A row at this version is not older than the write that left the mark. -/
def WriteMark.allows (versionId : Nat) : WriteMark → Bool
  | .version written => decide (written ≤ versionId)
  | .deleted => false

/-- `returned` records, for the specifications only, which writes of which
student rows have returned to their caller. -/
structure Store where
  db : Database := .empty
  queue : Queue := {}
  cache : Id → Option CacheEntry := fun _ => none
  /-- Which session holds the row lock of a user. -/
  userLocks : Id → Option Nat := fun _ => none
  events : Nat → Events := fun _ => {}
  returned : List (Id × WriteMark) := []

def Store.setTables (store : Store) (db : Database) : Store :=
  { store with db := db }

/-- `COMMIT` and `ROLLBACK` release the session's row locks. -/
def Store.releaseLocks (store : Store) (session : Nat) : Store :=
  { store with
    userLocks := fun userId =>
      if store.userLocks userId = some session then none
      else store.userLocks userId }

def Store.lock (store : Store) (session : Nat) (userId : Id) : Store :=
  { store with
    userLocks := fun other =>
      if other = userId then some session else store.userLocks other }

def Store.lockFree (store : Store) (session : Nat) (userId : Id) : Bool :=
  match store.userLocks userId with
  | none => true
  | some holder => decide (holder = session)

theorem mapped_ok {ε α β : Type} {result : Except ε α} {answer : α → β}
    {value : β} (succeeded : result.map answer = .ok value) :
    ∃ computed, result = .ok computed ∧ answer computed = value := by
  cases result with
  | error exc => cases succeeded
  | ok computed => exact ⟨computed, rfl, Except.ok.inj succeeded⟩

def Store.commit (store : Store)
    (flush : Tables → Except SqlError Tables) : Except Exc (Unit × Store) :=
  match store.db.commit flush with
  | .ok db => .ok ((), store.setTables db)
  | .error kind => .error (.sql kind kind.typeName)

theorem Store.commit_ok {store next : Store} {done : Unit}
    {flush : Tables → Except SqlError Tables}
    (committed : store.commit flush = .ok (done, next)) :
    ∃ db, flush store.db.tables = .ok db.tables ∧
      next = store.setTables db := by
  unfold Store.commit at committed
  cases result : store.db.commit flush with
  | error kind =>
      rw [result] at committed
      cases committed
  | ok db =>
      rw [result] at committed
      cases committed
      exact ⟨db, Database.commit_ok result, rfl⟩

theorem Store.commit_of_ok {store : Store}
    {flush : Tables → Except SqlError Tables} {tables : Tables}
    (flushed : flush store.db.tables = .ok tables)
    (admissible : tables.Admissible) :
    store.commit flush = .ok ((), store.setTables ⟨tables, admissible⟩) := by
  simp only [Store.commit, Database.commit_of_ok flushed admissible]

theorem Store.commit_of_error {store : Store}
    {flush : Tables → Except SqlError Tables} {kind : SqlError}
    (refused : flush store.db.tables = .error kind) :
    store.commit flush = .error (.sql kind kind.typeName) := by
  simp only [Store.commit, Database.commit_of_error refused]

def Store.setEvents (store : Store) (execution : Nat) (events : Events) :
    Store :=
  { store with
    events := fun other =>
      if other = execution then events else store.events other }

/-! ## Names of the statements -/

inductive QueueLabel where
  | exportTranscript
  | claimNextJob (now : Time)
  | renewLease (claim : ClaimedJob)
  | recordFailure (claim : ClaimedJob) (error : Exc) (permanent : Bool)
  | persistReport (jobId : String)
  | reconcileJob (jobId : String)
  | reconcileJobs
  deriving DecidableEq

/-- `read` is the row the request loaded before. -/
inductive AccountLabel where
  | registerUser
  | lockAdmin (userId : Id)
  | updateUser (read : User) (change : UserChange)
  | deleteUser (read : User) (dependent : Option Student)
  | rollback
  deriving DecidableEq

inductive StudentLabel where
  | updateStudent (read : Student) (change : StudentChange)
      (carried : Option Nat)
  | deleteStudent (read : Student)
  | cacheSet (studentId : Id) (response : StudentResponse)
  | cacheDelete (studentId : Id) (mark : WriteMark)
  deriving DecidableEq

inductive Label where
  | internal
  | query
  | queue (label : QueueLabel)
  | account (label : AccountLabel)
  | student (label : StudentLabel)
  | registrar
  deriving DecidableEq

inductive Child where
  | heartbeat (claim : ClaimedJob) (execution : Nat)

abbrev university : Signature where
  State := Store
  Choice := Choice
  Label := Label
  Child := Child

/-- Python code: it returns or raises. -/
abbrev Py (α : Type) := ExceptT Exc (Prog university) α

/-! ## Statements -/

/-- The store after a call: nothing is written when it failed or when the
database refused it. -/
def written {α : Type} (call : CallOutcome)
    (result : Except Exc (α × Store)) (store : Store) : Store :=
  match call, result with
  | .failed _ _, _ => store
  | _, .ok (_, next) => next
  | _, .error _ => store

def answered {α : Type} (call : CallOutcome)
    (result : Except Exc (α × Store)) : Except Exc α :=
  match call, result with
  | .done, .ok (value, _) => .ok value
  | .done, .error exc => .error exc
  | .failed kind text, _ => .error (.sql kind text)
  | .lost kind text, _ => .error (.sql kind text)

/-- A writing statement with its commit; it waits for row locks until
`ready`. -/
def lockingTransaction {α : Type} (label : Label)
    (ready : Nat → Store → Bool)
    (body : Nat → Choice → Store → Except Exc (α × Store)) : Py α :=
  ExceptT.mk (Prog.perform (S := university)
    { label := label
      ready := fun me _ store => ready me store
      act := fun me choice store =>
        written choice.call (body me choice store) store }
    fun me choice store => answered choice.call (body me choice store))

def transaction {α : Type} (label : Label)
    (body : Choice → Store → Except Exc (α × Store)) : Py α :=
  lockingTransaction label (fun _ _ => true) fun _ => body

/-- A `SELECT`. -/
def query {α : Type} (read : Store → α) : Py α :=
  transaction .query fun _ store => .ok (read store, store)

/-- A `SELECT` whose parameters are cast to the types of their columns;
PostgreSQL refuses those that do not fit. -/
def select {α : Type} (fits : Bool) (read : Store → α) : Py α :=
  transaction .query fun _ store =>
    if fits then .ok (read store, store)
    else .error (.sql .dataError SqlError.dataError.typeName)

/-- A step whose failures the code does not see. -/
def command {α : Type} (label : Label)
    (body : Nat → Choice → Store → α × Store) : Py α :=
  ExceptT.mk (Prog.perform (S := university)
    { label := label
      ready := fun _ _ _ => true
      act := fun me choice store => (body me choice store).2 }
    fun me choice store => .ok (body me choice store).1)

/-- A step that no server takes part in. -/
def internal {α : Type} (body : Nat → Choice → Store → α × Store) : Py α :=
  command .internal body

/-- `thread.start()`. -/
def startThread (child : Child) : Py Unit :=
  ExceptT.mk (.fork child (.ret (.ok ())))

/-- `datetime.now(UTC)`. -/
def now : Py Time := internal fun _ choice store => (choice.now, store)

def uuid4 : Py String := internal fun _ choice store => (choice.uuid, store)

def uniform : Py Jitter := internal fun _ choice store => (choice.jitter, store)

/-- `try … finally …`. -/
def withFinally {α : Type} (body : Py α) (final : Py Unit) : Py α := do
  let value ← tryCatch body fun exc => do
    final
    throw exc
  final
  return value

/-! ## For runs as examples -/

def sampleStore : Store := { db := sampleDatabase }

def linkedStore : Store := { db := linkedDatabase }

/-- Turns in which every call succeeds. -/
def plain (threads : List Nat) : List (Turn university) :=
  threads.map fun thread => ⟨thread, {}⟩

def accept (_ : Label) (_ : Choice) (_ : Store) : Bool := true

end SystemUni.Runtime.Statements
