import SystemUni.Crud.Enrollment
import SystemUni.Interleaving.Linearization
import SystemUni.Runtime.Rules

/-!
# One enrollment request beside others

`enroll` says what `create_enrollment` is for: it refuses what is unknown, what
does not fit and what conflicts, and inserts the rest.  The code decides by four
reads and a commit; it takes effect in the first of them that settles its
answer.
-/

set_option autoImplicit false

namespace SystemUni.Enrollments.Creation

open Interleaving Relational
open SystemUni.Runtime.Errors
open SystemUni.Runtime.Statements
open SystemUni.Runtime.Rules
open SystemUni.Models.Rows
open SystemUni.Models.Schema
open SystemUni.Crud.User
open SystemUni.Crud.Student
open SystemUni.Crud.Enrollment

/-! ## What a request is for -/

inductive Response where
  | inserted
  | refused (statusCode : Nat)
  deriving DecidableEq

/-- The HTTP status of an answer; the application has a handler for
`DataError`. -/
def responseOf {α : Type} : Except Exc α → Response
  | .ok _ => .inserted
  | .error (.httpException statusCode _) => .refused statusCode
  | .error (.sql .dataError _) => .refused 422
  | .error _ => .refused 500

/-- The row conflicts with no row of the table. -/
def Insertable (enrollment : EnrollmentCreate) (tables : Tables) : Prop :=
  ∀ row ∈ tables.enrollments.rows, enrollment.samePair row = false ∧
    enrollment.sameCode row = false

instance (enrollment : EnrollmentCreate) (tables : Tables) :
    Decidable (Insertable enrollment tables) :=
  inferInstanceAs (Decidable (∀ row ∈ tables.enrollments.rows,
    enrollment.samePair row = false ∧ enrollment.sameCode row = false))

/-- What is refused before the enrollment code is looked up. -/
def refusal (enrollment : EnrollmentCreate) (tables : Tables) : Option Nat :=
  if !fitsInteger enrollment.studentId then some 422
  else if (tables.students.find? enrollment.studentId).isNone then some 404
  else if !fitsInteger enrollment.courseOfferingId then some 422
  else if (tables.courseOfferings.find? enrollment.courseOfferingId).isNone then
    some 404
  else if tables.enrollments.rows.any enrollment.samePair then some 409
  else if !fitsText enrollment.enrollmentCode then some 422
  else none

/-- The whole operation at once, with the id and the time the database
draws.  It has no result when it would insert a row under an id in use, which a
sequence does not hand out. -/
def enroll (enrollment : EnrollmentCreate) (choice : Choice)
    (tables : Tables) : Tables × Option Response :=
  match refusal enrollment tables with
  | some statusCode => (tables, some (.refused statusCode))
  | none =>
      if Insertable enrollment tables ∧
          enrollmentChecks (enrollment.row choice) = true then
        if fresh : tables.enrollments.find? choice.newId = none then
          ({ tables with
            enrollments :=
              tables.enrollments.insert (enrollment.row choice) fresh },
            some .inserted)
        else (tables, none)
      else (tables, some (.refused 409))

/-! ## The constraints -/

section Constraints

variable {enrollment : EnrollmentCreate} {choice : Choice} {tables : Tables}

theorem admissible_inserted (admissible : tables.Admissible)
    (fresh : tables.enrollments.find? choice.newId = none)
    (student : (tables.students.find? enrollment.studentId).isSome = true)
    (courseOffering :
      (tables.courseOfferings.find? enrollment.courseOfferingId).isSome = true)
    (insertable : Insertable enrollment tables)
    (checks : enrollmentChecks (enrollment.row choice) = true) :
    ({ tables with
      enrollments := tables.enrollments.insert (enrollment.row choice) fresh } :
      Tables).Admissible := by
  obtain ⟨codes, pairs, students, courseOfferings, checked⟩ :=
    admissible.enrollment
  refine { admissible with enrollment := ⟨?_, ?_, ?_, ?_, ?_⟩ }
  · refine codes.insert fresh ?_
    intro other member value isCode same
    have different := (insertable other member).2
    simp only [EnrollmentCreate.sameCode, decide_eq_false_iff_not] at different
    exact different (Option.some.inj (same.trans isCode.symm))
  · refine pairs.insert fresh ?_
    intro other member value isPair same
    have different := (insertable other member).1
    have equal := Option.some.inj (same.trans isPair.symm)
    simp only [EnrollmentCreate.row, Prod.mk.injEq] at equal
    simp [EnrollmentCreate.samePair, equal.1, equal.2] at different
  · refine students.insert fresh ?_
    intro wanted refers
    obtain ⟨row, found⟩ := Option.isSome_iff_exists.mp student
    cases Option.some.inj refers
    exact ⟨row, Table.mem_of_find? found, Table.key_of_find? found⟩
  · refine courseOfferings.insert fresh ?_
    intro wanted refers
    obtain ⟨row, found⟩ := Option.isSome_iff_exists.mp courseOffering
    cases Option.some.inj refers
    exact ⟨row, Table.mem_of_find? found, Table.key_of_find? found⟩
  · exact checked.insert fresh checks

theorem insertable_of_admissible
    (fresh : tables.enrollments.find? choice.newId = none)
    (admissible : ({ tables with
      enrollments := tables.enrollments.insert (enrollment.row choice) fresh } :
      Tables).Admissible) :
    Insertable enrollment tables ∧
      enrollmentChecks (enrollment.row choice) = true := by
  obtain ⟨codes, pairs, _, _, checked⟩ := admissible.enrollment
  have freshRow : tables.enrollments.find? (enrollment.row choice).id = none :=
    fresh
  have new : enrollment.row choice ∈
      (tables.enrollments.insert (enrollment.row choice) freshRow).rows :=
    (Table.mem_insert freshRow).mpr (.inr rfl)
  have apart (row : Enrollment) (member : row ∈ tables.enrollments.rows) :
      row ≠ enrollment.row choice := by
    intro same
    exact Table.find?_eq_none_iff.mp fresh row member
      (congrArg Enrollment.id same)
  refine ⟨?_, checked _ new⟩
  intro row member
  have old := (Table.mem_insert freshRow).mpr (.inl member)
  constructor
  · by_contra same
    simp only [Bool.not_eq_false, EnrollmentCreate.samePair,
      Bool.and_eq_true, decide_eq_true_eq] at same
    refine apart row member (Table.Unique.eq_of_value pairs old new rfl ?_)
    simp [EnrollmentCreate.row, same.1, same.2]
  · by_contra same
    simp only [Bool.not_eq_false, EnrollmentCreate.sameCode,
      decide_eq_true_eq] at same
    refine apart row member (Table.Unique.eq_of_value codes old new rfl ?_)
    simp [EnrollmentCreate.row, same]

/-- The ids of the request fit and are known. -/
structure Resolves (enrollment : EnrollmentCreate) (tables : Tables) :
    Prop where
  studentFits : fitsInteger enrollment.studentId = true
  student :
    (tables.students.find? enrollment.studentId).isSome = true
  courseOfferingFits : fitsInteger enrollment.courseOfferingId = true
  courseOffering :
    (tables.courseOfferings.find? enrollment.courseOfferingId).isSome = true

theorem Resolves.refusal (resolves : Resolves enrollment tables) :
    refusal enrollment tables =
      if tables.enrollments.rows.any enrollment.samePair then some 409
      else if !fitsText enrollment.enrollmentCode then some 422
      else none := by
  obtain ⟨student, found⟩ := Option.isSome_iff_exists.mp resolves.student
  obtain ⟨courseOffering, offeringFound⟩ :=
    Option.isSome_iff_exists.mp resolves.courseOffering
  simp [Creation.refusal, resolves.studentFits, resolves.courseOfferingFits,
    found, offeringFound]

theorem not_insertable_of_pair
    (taken : tables.enrollments.rows.any enrollment.samePair = true) :
    ¬ Insertable enrollment tables := by
  intro insertable
  obtain ⟨row, member, same⟩ := List.any_eq_true.mp taken
  rw [(insertable row member).1] at same
  cases same

/-- Once the ids resolve and the text fits, only conflicts are left. -/
theorem Resolves.enroll (resolves : Resolves enrollment tables)
    (text : fitsText enrollment.enrollmentCode = true) :
    enroll enrollment choice tables =
      if Insertable enrollment tables ∧
          enrollmentChecks (enrollment.row choice) = true then
        if fresh : tables.enrollments.find? choice.newId = none then
          ({ tables with
            enrollments :=
              tables.enrollments.insert (enrollment.row choice) fresh },
            some .inserted)
        else (tables, none)
      else (tables, some (.refused 409)) := by
  unfold Creation.enroll
  rw [resolves.refusal]
  by_cases taken : tables.enrollments.rows.any enrollment.samePair = true
  · simp [taken, not_insertable_of_pair taken]
  · simp [taken, text]

theorem Resolves.fits (resolves : Resolves enrollment tables)
    (text : fitsText enrollment.enrollmentCode = true) :
    enrollmentFits (enrollment.row choice) = true := by
  simp [enrollmentFits, EnrollmentCreate.row, resolves.studentFits,
    resolves.courseOfferingFits, text, enrollment.codeLength.2]

theorem commit_insert {store : Store}
    (resolves : Resolves enrollment store.db.tables)
    (text : fitsText enrollment.enrollmentCode = true)
    (fresh : store.db.tables.enrollments.find? choice.newId = none) :
    (∃ db, store.commit (insertEnrollment (enrollment.row choice)) =
        .ok ((), store.setTables db) ∧
      Creation.enroll enrollment choice store.db.tables =
        (db.tables, some .inserted) ∧
      db.tables = { store.db.tables with
        enrollments := store.db.tables.enrollments.insert
          (enrollment.row choice) fresh }) ∨
    store.commit (insertEnrollment (enrollment.row choice)) =
        .error (.sql .integrityError SqlError.integrityError.typeName) ∧
      Creation.enroll enrollment choice store.db.tables =
        (store.db.tables, some (.refused 409)) := by
  rw [resolves.enroll text]
  have inserts : insertEnrollment (enrollment.row choice) store.db.tables =
      .ok { store.db.tables with
        enrollments := store.db.tables.enrollments.insert
          (enrollment.row choice) fresh } := by
    have freshRow : store.db.tables.enrollments.find?
        (enrollment.row choice).id = none := fresh
    simp [insertEnrollment, resolves.fits text, freshRow]
  by_cases allowed : Insertable enrollment store.db.tables ∧
      enrollmentChecks (enrollment.row choice) = true
  · left
    have admissible := admissible_inserted store.db.admissible fresh
      resolves.student resolves.courseOffering allowed.1 allowed.2
    exact ⟨⟨_, admissible⟩, Store.commit_of_ok inserts admissible,
      by simp only [if_pos allowed, dif_pos fresh], rfl⟩
  · right
    refine ⟨?_, by simp only [if_neg allowed]⟩
    unfold Store.commit Database.commit
    rw [inserts]
    simp only
    rw [dif_neg fun admissible =>
      allowed (insertable_of_admissible fresh admissible)]

end Constraints

/-! ## The discipline -/

/-- What creating enrollments does to the tables. -/
structure Grows (before after : Tables) : Prop where
  students : after.students = before.students
  courseOfferings : after.courseOfferings = before.courseOfferings
  enrollments : ∀ enrollmentId row,
    before.enrollments.find? enrollmentId = some row →
      after.enrollments.find? enrollmentId = some row

theorem Grows.refl (tables : Tables) : Grows tables tables :=
  ⟨rfl, rfl, fun _ _ found => found⟩

theorem Grows.trans {first middle last : Tables} (before : Grows first middle)
    (after : Grows middle last) : Grows first last :=
  ⟨after.students.trans before.students,
    after.courseOfferings.trans before.courseOfferings,
    fun enrollmentId row found =>
      after.enrollments enrollmentId row
        (before.enrollments enrollmentId row found)⟩

theorem Grows.member {before after : Tables} (grows : Grows before after)
    {row : Enrollment} (member : row ∈ before.enrollments.rows) :
    row ∈ after.enrollments.rows :=
  Table.mem_of_find? (grows.enrollments row.id row (Table.find?_of_mem member))

theorem Grows.insert {tables : Tables} {row : Enrollment}
    (fresh : tables.enrollments.find? row.id = none) :
    Grows tables { tables with
      enrollments := tables.enrollments.insert row fresh } := by
  refine ⟨rfl, rfl, ?_⟩
  intro enrollmentId old found
  exact Table.find?_insert_old fresh found

theorem Resolves.grows {enrollment : EnrollmentCreate} {before after : Tables}
    (resolves : Resolves enrollment before) (grows : Grows before after) :
    Resolves enrollment after where
  studentFits := resolves.studentFits
  student := by
    rw [grows.students]
    exact resolves.student
  courseOfferingFits := resolves.courseOfferingFits
  courseOffering := by
    rw [grows.courseOfferings]
    exact resolves.courseOffering

def tablesOf (store : Store) : Tables := store.db.tables

/-- Every call succeeds and a new row gets an id that is not in use. -/
def draws : Condition university := fun label choice store =>
  choice.call = .done ∧ (label = .registrar →
    store.db.tables.enrollments.find? choice.newId = none)

def enrollmentDiscipline : Discipline university where
  inv _ := True
  rely _ before after := Grows (tablesOf before) (tablesOf after)
  guar _ _ _ before after := Grows (tablesOf before) (tablesOf after)
  ok := draws
  rely_refl _ store := .refl (tablesOf store)
  rely_trans _ _ _ _ before after := before.trans after
  guar_rely _ grows := grows

section Rules

variable {me : Nat} {store : Store} {α : Type}
  {effect : Choice → Tables → Tables × Option Response}
  {post : α → Store → Prop} {fail : Exc → Store → Prop}

theorem stays_transaction {label : Label}
    {body : Choice → Store → Except Exc (α × Store)}
    (commits : ∀ choice value next, body choice store = .ok (value, next) →
      tablesOf next = tablesOf store ∧
        ∀ later, Grows (tablesOf store) (tablesOf later) → post value later)
    (refuses : ∀ choice exc, body choice store = .error exc →
      ∀ later, Grows (tablesOf store) (tablesOf later) → fail exc later) :
    Stays enrollmentDiscipline me tablesOf (transaction label body) post fail
      store := by
  intro choice
  refine ⟨rfl, fun drawn => ?_⟩
  have done : choice.call = .done := drawn.1
  change True ∧
    Grows (tablesOf store)
      (tablesOf (written choice.call (body choice store) store)) ∧
    tablesOf (written choice.call (body choice store) store) =
      tablesOf store ∧
    ∀ later, True → Grows
        (tablesOf (written choice.call (body choice store) store))
        (tablesOf later) →
      outcome (S := university) post fail
        (answered choice.call (body choice store)) later
  rw [done]
  cases result : body choice store with
  | error exc =>
      exact ⟨trivial, .refl _, rfl, fun later _ grows =>
        refuses choice exc result later grows⟩
  | ok pair =>
      obtain ⟨same, returns⟩ := commits choice pair.1 pair.2 result
      change True ∧ Grows (tablesOf store) (tablesOf pair.2) ∧
        tablesOf pair.2 = tablesOf store ∧
        ∀ later, True → Grows (tablesOf pair.2) (tablesOf later) →
          post pair.1 later
      rw [same]
      exact ⟨trivial, .refl _, rfl, fun later _ grows => returns later grows⟩

theorem stays_select {fits : Bool} {read : Store → α}
    (reads : fits = true → ∀ later, Grows (tablesOf store) (tablesOf later) →
      post (read store) later)
    (refused : fits = false → ∀ later,
      Grows (tablesOf store) (tablesOf later) →
        fail (.sql .dataError SqlError.dataError.typeName) later) :
    Stays enrollmentDiscipline me tablesOf (select fits read) post fail
      store := by
  refine stays_transaction ?_ ?_
  · intro choice value next body
    split at body
    · rename_i isFit
      cases body
      exact ⟨rfl, reads isFit⟩
    · cases body
  · intro choice exc body
    split at body
    · cases body
    · rename_i misfit
      cases body
      exact refused (by simpa using misfit)

variable {pending : α → Store → Prop} {pendingFail : Exc → Store → Prop}
  {done : Option Response → α → Store → Prop}
  {doneFail : Option Response → Exc → Store → Prop}

theorem takes_transaction {label : Label}
    {body : Choice → Store → Except Exc (α × Store)}
    (commits : ∀ choice value next, draws label choice store →
      body choice store = .ok (value, next) →
      Grows (tablesOf store) (tablesOf next) ∧
      ((tablesOf next = tablesOf store ∧
          ∀ later, Grows (tablesOf store) (tablesOf later) →
            pending value later) ∨
        ∃ result, effect choice (tablesOf store) = (tablesOf next, result) ∧
          ∀ later, Grows (tablesOf next) (tablesOf later) →
            done result value later))
    (refuses : ∀ choice exc, draws label choice store →
      body choice store = .error exc →
      ∃ result, effect choice (tablesOf store) = (tablesOf store, result) ∧
        ∀ later, Grows (tablesOf store) (tablesOf later) →
          doneFail result exc later) :
    Takes enrollmentDiscipline me tablesOf effect (transaction label body)
      pending pendingFail done doneFail store := by
  intro choice
  refine ⟨rfl, fun drawn => ?_⟩
  have isDone : choice.call = .done := drawn.1
  change True ∧
    Grows (tablesOf store)
      (tablesOf (written choice.call (body choice store) store)) ∧
    ((tablesOf (written choice.call (body choice store) store) =
          tablesOf store ∧
        ∀ later, True → Grows
            (tablesOf (written choice.call (body choice store) store))
            (tablesOf later) →
          outcome (S := university) pending pendingFail
            (answered choice.call (body choice store)) later) ∨
      ∃ result, effect choice (tablesOf store) =
          (tablesOf (written choice.call (body choice store) store), result) ∧
        ∀ later, True → Grows
            (tablesOf (written choice.call (body choice store) store))
            (tablesOf later) →
          outcome (S := university) (done result) (doneFail result)
            (answered choice.call (body choice store)) later)
  rw [isDone]
  cases body' : body choice store with
  | error exc =>
      obtain ⟨result, takes, settles⟩ := refuses choice exc drawn body'
      exact ⟨trivial, .refl _, .inr ⟨result, takes, fun later _ grows =>
        settles later grows⟩⟩
  | ok pair =>
      obtain ⟨grows, happens⟩ := commits choice pair.1 pair.2 drawn body'
      refine ⟨trivial, grows, ?_⟩
      rcases happens with ⟨same, goesOn⟩ | ⟨result, takes, settles⟩
      · refine .inl ⟨same, fun later _ moves => goesOn later ?_⟩
        rw [← same]
        exact moves
      · exact .inr ⟨result, takes, fun later _ moves => settles later moves⟩

theorem takes_select {fits : Bool} {read : Store → α}
    (reads : fits = true →
      (∀ later, Grows (tablesOf store) (tablesOf later) →
        pending (read store) later) ∨
      ∃ result, (∀ choice, effect choice (tablesOf store) =
          (tablesOf store, result)) ∧
        ∀ later, Grows (tablesOf store) (tablesOf later) →
          done result (read store) later)
    (refused : fits = false →
      ∃ result, (∀ choice, effect choice (tablesOf store) =
          (tablesOf store, result)) ∧
        ∀ later, Grows (tablesOf store) (tablesOf later) →
          doneFail result (.sql .dataError SqlError.dataError.typeName)
            later) :
    Takes enrollmentDiscipline me tablesOf effect (select fits read) pending
      pendingFail done doneFail store := by
  refine takes_transaction ?_ ?_
  · intro choice value next _ body
    split at body
    · rename_i isFit
      cases body
      refine ⟨.refl _, ?_⟩
      rcases reads isFit with goesOn | ⟨result, takes, settles⟩
      · exact .inl ⟨rfl, goesOn⟩
      · exact .inr ⟨result, takes choice, settles⟩
    · cases body
  · intro choice exc _ body
    split at body
    · cases body
    · rename_i misfit
      cases body
      obtain ⟨result, takes, settles⟩ := refused (by simpa using misfit)
      exact ⟨result, takes choice, settles⟩

theorem stays_rollback {post : Unit → Store → Prop}
    (returns : ∀ later, Grows (tablesOf store) (tablesOf later) →
      post () later) :
    Stays enrollmentDiscipline me tablesOf rollback post fail store :=
  fun _ => ⟨rfl, fun _ => ⟨trivial, .refl _, rfl,
    fun later _ grows => returns later grows⟩⟩

end Rules

/-! ## The request -/

section Request

variable {me : Nat} {store : Store} {enrollment : EnrollmentCreate}

/-- The answer is the one the operation has given when it took effect. -/
def answersAs {α : Type} (result : Option Response) (value : α) (_ : Store) :
    Prop :=
  some (responseOf (.ok value)) = result

def failsAs (result : Option Response) (exc : Exc) (_ : Store) : Prop :=
  some (responseOf (α := Enrollment) (.error exc)) = result

/-- A request that has still to take effect. -/
abbrev TakesEffect {α : Type} (me : Nat) (enrollment : EnrollmentCreate)
    (program : Py α) (store : Store) : Prop :=
  Takes enrollmentDiscipline me tablesOf (enroll enrollment) program
    (fun _ _ => False) (fun _ _ => False) answersAs failsAs store

theorem enroll_refused {tables : Tables} {statusCode : Nat}
    (refused : refusal enrollment tables = some statusCode)
    (choice : Choice) :
    enroll enrollment choice tables =
      (tables, some (.refused statusCode)) := by
  simp [enroll, refused]

theorem stays_refreshEnrollment {row : Enrollment}
    (found : (tablesOf store).enrollments.find? row.id = some row)
    {fail : Exc → Store → Prop} :
    Stays enrollmentDiscipline me tablesOf (refreshEnrollment row.id)
      (answersAs (some .inserted)) fail store := by
  refine stays_bind (stays_transaction ?_ ?_)
  · intro choice value next body
    cases body
    refine ⟨rfl, fun later _ => ?_⟩
    have selected : store.db.tables.enrollments.find? row.id = some row :=
      found
    simp only [selected]
    exact rfl
  · intro choice exc body
    cases body

/-! ### What is left of `create_enrollment` after each read -/

def insertChecked (enrollment : EnrollmentCreate) : Py Enrollment :=
  tryCatch
    (do
      let newEnrollment ← commitNewEnrollment enrollment
      refreshEnrollment newEnrollment.id)
    handleEnrollmentErrors

def checkCode (enrollment : EnrollmentCreate) : Py Enrollment := do
  let existingCode ← select (fitsText enrollment.enrollmentCode) fun store =>
    store.db.tables.enrollments.rows.find? enrollment.sameCode
  if existingCode.isSome then throw codeDuplicate
  insertChecked enrollment

def checkPair (enrollment : EnrollmentCreate) : Py Enrollment := do
  let existingEnrollment ← select
    (fitsInteger enrollment.studentId &&
      fitsInteger enrollment.courseOfferingId)
    fun store => store.db.tables.enrollments.rows.find? enrollment.samePair
  if existingEnrollment.isSome then throw alreadyEnrolled
  checkCode enrollment

def checkCourseOffering (enrollment : EnrollmentCreate) : Py Enrollment := do
  let courseOffering ← select (fitsInteger enrollment.courseOfferingId)
    fun store =>
      store.db.tables.courseOfferings.find? enrollment.courseOfferingId
  if courseOffering.isNone then throw courseOfferingNotFound
  checkPair enrollment

theorem createEnrollment_eq (enrollment : EnrollmentCreate) :
    createEnrollment enrollment = (do
      let student ← select (fitsInteger enrollment.studentId) fun store =>
        store.db.tables.students.find? enrollment.studentId
      if student.isNone then throw studentNotFound
      checkCourseOffering enrollment) := rfl

/-- The commit settles what the reads have left open. -/
theorem takes_commit
    (resolves : Resolves enrollment (tablesOf store))
    (text : fitsText enrollment.enrollmentCode = true) :
    TakesEffect me enrollment
      (insertChecked enrollment) store := by
  refine takes_tryCatch (takes_bind (takes_transaction ?_ ?_))
  · intro choice value next drawn body
    have fresh := drawn.2 rfl
    rcases commit_insert resolves text fresh with
      ⟨db, committed, takes, tables⟩ | ⟨refused, _⟩
    · rw [committed] at body
      cases body
      have grows : Grows (tablesOf store) db.tables := by
        rw [tables]
        exact .insert fresh
      have found : db.tables.enrollments.find? (enrollment.row choice).id =
          some (enrollment.row choice) := by
        rw [tables]
        exact (Table.find?_insert _ _ fresh _).trans (if_pos rfl)
      refine ⟨grows, .inr ⟨some .inserted, takes, fun later moves => ?_⟩⟩
      exact stays_refreshEnrollment (moves.enrollments _ _ found)
    · rw [refused] at body
      cases body
  · intro choice exc drawn body
    rcases commit_insert resolves text (drawn.2 rfl) with
      ⟨db, committed, _⟩ | ⟨refused, takes⟩
    · rw [committed] at body
      cases body
    · rw [refused] at body
      cases body
      exact ⟨some (.refused 409), takes, fun later _ =>
        stays_bind (stays_rollback fun _ _ => rfl)⟩

theorem takes_code
    (resolves : Resolves enrollment (tablesOf store))
    (text : fitsText enrollment.enrollmentCode = true) :
    TakesEffect me enrollment
      (checkCode enrollment) store := by
  refine takes_bind (takes_select (fun _ => ?_) fun misfit => ?_)
  · cases taken : store.db.tables.enrollments.rows.find?
        enrollment.sameCode with
    | none =>
        exact .inl fun later grows => takes_commit (resolves.grows grows) text
    | some row =>
        right
        have conflicts : ¬ Insertable enrollment (tablesOf store) := by
          intro insertable
          have same := List.find?_some taken
          rw [(insertable row (List.mem_of_find?_eq_some taken)).2] at same
          cases same
        refine ⟨some (.refused 409), fun choice => ?_, fun later _ => rfl⟩
        rw [resolves.enroll text]
        simp [conflicts]
  · rw [text] at misfit
    cases misfit

theorem any_of_find? {ρ : Type} {rows : List ρ} {condition : ρ → Bool} :
    rows.any condition = (rows.find? condition).isSome := by
  rw [Bool.eq_iff_iff, List.any_eq_true, List.find?_isSome]

/-- The read of the pair.  A request whose code does not fit is settled here
already: it will be refused whatever happens. -/
theorem takes_pair (resolves : Resolves enrollment (tablesOf store)) :
    TakesEffect me enrollment
      (checkPair enrollment) store := by
  have refused := resolves.refusal
  rw [any_of_find?] at refused
  refine takes_bind (takes_select (fun _ => ?_) fun misfit => ?_)
  · cases taken : store.db.tables.enrollments.rows.find?
        enrollment.samePair with
    | some row =>
        right
        have pair : refusal enrollment (tablesOf store) = some 409 := by
          simpa [tablesOf, taken] using refused
        exact ⟨some (.refused 409), enroll_refused pair, fun later _ => rfl⟩
    | none =>
        by_cases text : fitsText enrollment.enrollmentCode = true
        · exact .inl fun later grows => takes_code (resolves.grows grows) text
        · right
          have misfits : refusal enrollment (tablesOf store) = some 422 := by
            simpa [tablesOf, taken, text] using refused
          refine ⟨some (.refused 422), enroll_refused misfits, fun later _ => ?_⟩
          refine stays_bind (stays_select (fun isFit => ?_) fun _ _ _ => rfl)
          exact absurd isFit text
  · simp [resolves.studentFits, resolves.courseOfferingFits] at misfit

/-- The read of the course offering. -/
theorem takes_courseOffering
    (fits : fitsInteger enrollment.studentId = true)
    (student : ((tablesOf store).students.find?
      enrollment.studentId).isSome = true) :
    TakesEffect me enrollment
      (checkCourseOffering enrollment) store := by
  have known := Option.isNone_eq_false_iff.mpr student
  refine takes_bind (takes_select (fun isFit => ?_) fun misfit => ?_)
  · cases found : store.db.tables.courseOfferings.find?
        enrollment.courseOfferingId with
    | none =>
        right
        have missing : refusal enrollment (tablesOf store) = some 404 := by
          simp [refusal, fits, isFit, tablesOf, found]
        exact ⟨some (.refused 404), enroll_refused missing, fun later _ => rfl⟩
    | some courseOffering =>
        left
        have resolves : Resolves enrollment (tablesOf store) :=
          ⟨fits, student, isFit, by simp [tablesOf, found]⟩
        exact fun later grows => takes_pair (resolves.grows grows)
  · have misfits : refusal enrollment (tablesOf store) = some 422 := by
      simp [refusal, fits, known, misfit]
    exact ⟨some (.refused 422), enroll_refused misfits, fun later _ => rfl⟩

theorem takes_createEnrollment :
    TakesEffect me enrollment (createEnrollment enrollment) store := by
  rw [createEnrollment_eq]
  refine takes_bind (takes_select (fun isFit => ?_) fun misfit => ?_)
  · cases found : store.db.tables.students.find? enrollment.studentId with
    | none =>
        right
        have missing : refusal enrollment (tablesOf store) = some 404 := by
          simp [refusal, isFit, tablesOf, found]
        exact ⟨some (.refused 404), enroll_refused missing, fun later _ => rfl⟩
    | some student =>
        left
        intro later grows
        refine takes_courseOffering isFit ?_
        rw [grows.students]
        simp [tablesOf, found]
  · have misfits : refusal enrollment (tablesOf store) = some 422 := by
      simp [refusal, misfit]
    exact ⟨some (.refused 422), enroll_refused misfits, fun later _ => rfl⟩

/-- The endpoint: the request in its session. -/
def createEnrollmentEndpoint (enrollment : EnrollmentCreate) : Py Enrollment :=
  getDb (createEnrollment enrollment)

theorem takes_endpoint :
    TakesEffect me enrollment (createEnrollmentEndpoint enrollment) store := by
  refine takes_bind (takes_tryCatch (takes_tryCatch
    (takes_mono takes_createEnrollment (fun _ _ absurd => absurd.elim)
      (fun _ _ absurd => absurd.elim) ?_ ?_)))
  · intro result row later answers
    exact stays_bind (stays_rollback fun _ _ => answers)
  · intro result exc later fails
    refine stays_bind (stays_rollback fun _ _ => ?_)
    exact stays_bind (stays_rollback fun _ _ => fails)

theorem lin_of_takes {program : Py Enrollment}
    (takes : TakesEffect me enrollment program store) :
    Lin enrollmentDiscipline me tablesOf (enroll enrollment) program.run
      (fun _ _ => False)
      (fun result answer _ => some (responseOf answer) = result) store := by
  unfold TakesEffect Takes at takes
  refine lin_mono program.run store takes ?_ ?_
  · intro answer later absurd
    cases answer with
    | ok row => exact absurd
    | error exc => exact absurd
  · intro result answer later holds
    cases answer with
    | ok row => exact holds
    | error exc => exact holds

end Request

end SystemUni.Enrollments.Creation
