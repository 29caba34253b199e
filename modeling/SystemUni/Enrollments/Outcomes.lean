import SystemUni.Enrollments.Concurrency

/-!
# The outcomes of one enrollment request

With nobody else writing, which answer `create_enrollment` gives is decided by
the tables alone.  An id or a code that the database cannot take is refused
where its statement is reached; the two flags together fail a constraint whose
answer is that of a duplicate, and are left out here.
-/

set_option autoImplicit false

namespace SystemUni.Enrollments.Outcomes

open Interleaving Relational
open SystemUni.Runtime.Errors
open SystemUni.Runtime.Statements
open SystemUni.Models.Rows
open SystemUni.Models.Schema
open SystemUni.Crud.Student
open SystemUni.Crud.Enrollment
open SystemUni.Enrollments.Creation
open SystemUni.Enrollments.Concurrency

/-! ## What decides -/

/-- The student or the course offering does not exist. -/
def Missing (enrollment : EnrollmentCreate) (tables : Tables) : Prop :=
  tables.students.find? enrollment.studentId = none ∨
    tables.courseOfferings.find? enrollment.courseOfferingId = none

/-- An enrollment with the same pair or the same code exists. -/
def Duplicate (enrollment : EnrollmentCreate) (tables : Tables) : Prop :=
  ∃ row ∈ tables.enrollments.rows, Conflicts enrollment row

/-- The first statement that would be decided by an id or a code meets one
that the database cannot take. -/
def Unpassable (enrollment : EnrollmentCreate) (tables : Tables) : Prop :=
  fitsInteger enrollment.studentId = false ∨
  (tables.students.find? enrollment.studentId ≠ none ∧
    fitsInteger enrollment.courseOfferingId = false) ∨
  (¬ Missing enrollment tables ∧
    tables.enrollments.rows.any enrollment.samePair = false ∧
    fitsText enrollment.enrollmentCode = false)

/-- The response is the one that the tables ask for; only an insertion changes
them, and by exactly the row of the request. -/
structure Exact (enrollment : EnrollmentCreate) (before : Tables)
    (response : Response) (after : Tables) : Prop where
  invalid : response = .refused 422 ↔ Unpassable enrollment before
  missing : response = .refused 404 ↔
    ¬ Unpassable enrollment before ∧ Missing enrollment before
  duplicate : response = .refused 409 ↔ ¬ Unpassable enrollment before ∧
    ¬ Missing enrollment before ∧ Duplicate enrollment before
  inserted : response = .inserted ↔ ¬ Unpassable enrollment before ∧
    ¬ Missing enrollment before ∧ ¬ Duplicate enrollment before
  inserts : response = .inserted → ∃ newId createdAt,
    ∃ fresh : before.enrollments.find? newId = none,
      after = { before with
        enrollments := before.enrollments.insert
          { id := newId
            studentId := enrollment.studentId
            courseOfferingId := enrollment.courseOfferingId
            enrollmentCode := enrollment.enrollmentCode
            grade := enrollment.grade
            isActive := enrollment.isActive
            isWithdrawn := enrollment.isWithdrawn
            createdAt := createdAt } fresh }
  refuses : response ≠ .inserted → after = before

/-! ## The operation -/

section Operation

variable {enrollment : EnrollmentCreate} {before after : Tables}
  {choice : Choice} {response : Response}

theorem duplicate_iff :
    Duplicate enrollment before ↔ ¬ Insertable enrollment before := by
  constructor
  · rintro ⟨row, member, conflicts⟩ insertable
    exact not_conflicts insertable member conflicts
  · exact exists_conflict

theorem duplicate_of_pair
    (taken : before.enrollments.rows.any enrollment.samePair = true) :
    Duplicate enrollment before := by
  obtain ⟨row, member, same⟩ := List.any_eq_true.mp taken
  exact ⟨row, member, .inl same⟩

/-- Only the flags can break a check of an accepted payload. -/
theorem checks_of_flags
    (apart : ¬ (enrollment.isActive = true ∧ enrollment.isWithdrawn = true)) :
    enrollmentChecks (enrollment.row choice) = true := by
  have flags : (!(enrollment.isActive && enrollment.isWithdrawn)) = true := by
    rw [Bool.not_eq_true', ← Bool.not_eq_true, Bool.and_eq_true]
    exact apart
  unfold enrollmentChecks EnrollmentCreate.row
  cases isGrade : enrollment.grade with
  | none => simp [flags]
  | some value => simp [flags, enrollment.gradeBounds value isGrade]

/-- What the reads before the code decide. -/
theorem refusal_cases :
    (refusal enrollment before = some 422 ∧ Unpassable enrollment before) ∨
    (refusal enrollment before = some 404 ∧
      ¬ Unpassable enrollment before ∧ Missing enrollment before) ∨
    (refusal enrollment before = some 409 ∧
      ¬ Unpassable enrollment before ∧ ¬ Missing enrollment before ∧
      Duplicate enrollment before) ∨
    (refusal enrollment before = none ∧
      ¬ Unpassable enrollment before ∧ ¬ Missing enrollment before) := by
  by_cases studentFits : fitsInteger enrollment.studentId = true
  case neg => simp [refusal, Unpassable, studentFits]
  by_cases student : before.students.find? enrollment.studentId = none
  case pos => simp [refusal, Unpassable, Missing, studentFits, student]
  have known : (before.students.find? enrollment.studentId).isNone = false :=
    Option.isNone_eq_false_iff.mpr (Option.isSome_iff_ne_none.mpr student)
  by_cases offeringFits : fitsInteger enrollment.courseOfferingId = true
  case neg =>
    simp [refusal, Unpassable, studentFits, student, known, offeringFits]
  by_cases courseOffering :
    before.courseOfferings.find? enrollment.courseOfferingId = none
  case pos =>
    simp [refusal, Unpassable, Missing, studentFits, known, offeringFits,
      courseOffering]
  have offered : (before.courseOfferings.find?
      enrollment.courseOfferingId).isNone = false :=
    Option.isNone_eq_false_iff.mpr
      (Option.isSome_iff_ne_none.mpr courseOffering)
  have present : ¬ Missing enrollment before := by
    rintro (missing | missing)
    · exact student missing
    · exact courseOffering missing
  by_cases taken : before.enrollments.rows.any enrollment.samePair = true
  · right; right; left
    refine ⟨?_, ?_, present, duplicate_of_pair taken⟩
    · simp only [refusal, studentFits, known, offeringFits, offered, taken,
        Bool.not_true, Bool.false_eq_true, if_false, if_true]
    · simp [Unpassable, studentFits, offeringFits, taken]
  · have free : before.enrollments.rows.any enrollment.samePair = false := by
      simpa using taken
    by_cases text : fitsText enrollment.enrollmentCode = true
    · right; right; right
      refine ⟨?_, ?_, present⟩
      · simp only [refusal, studentFits, known, offeringFits, offered, free,
          text, Bool.not_true, Bool.false_eq_true, if_false]
      · simp [Unpassable, studentFits, offeringFits, text]
    · left
      refine ⟨?_, .inr (.inr ⟨present, free, by simpa using text⟩)⟩
      simp only [refusal, studentFits, known, offeringFits, offered, free,
        text, Bool.not_true, Bool.not_false, Bool.false_eq_true, if_false,
        if_true]

theorem exact_of_enroll
    (apart : ¬ (enrollment.isActive = true ∧ enrollment.isWithdrawn = true))
    (takes : enroll enrollment choice before = (after, some response)) :
    Exact enrollment before response after := by
  rcases @refusal_cases enrollment before with
    ⟨refused, unpassable⟩ | ⟨refused, passable, missing⟩ |
    ⟨refused, passable, present, duplicate⟩ | ⟨accepted, passable, present⟩
  · rw [enroll_refused refused] at takes
    cases takes
    constructor <;> simp [unpassable]
  · rw [enroll_refused refused] at takes
    cases takes
    constructor <;> simp [passable, missing]
  · rw [enroll_refused refused] at takes
    cases takes
    constructor <;> simp [passable, present, duplicate]
  · -- The ids are known and nothing is refused before the commit.
    cases response with
    | inserted =>
        obtain ⟨_, insertable, _, fresh, isAfter⟩ := enroll_inserted takes
        have free : ¬ Duplicate enrollment before := fun duplicate =>
          duplicate_iff.mp duplicate insertable
        constructor
        · simp [passable]
        · simp [present]
        · simp [free]
        · simp [passable, present, free]
        · exact fun _ => ⟨choice.newId, choice.now, fresh, isAfter⟩
        · simp
    | refused statusCode =>
        obtain ⟨same, why⟩ := enroll_refusal takes
        obtain ⟨isCode, forbidden⟩ : statusCode = 409 ∧
            ¬ (Insertable enrollment before ∧
              enrollmentChecks (enrollment.row choice) = true) := by
          simpa [accepted] using why
        have duplicate : Duplicate enrollment before :=
          duplicate_iff.mpr fun insertable =>
            forbidden ⟨insertable, checks_of_flags apart⟩
        constructor <;> simp [isCode, passable, present, duplicate, same]

end Operation

/-! ## The request, executed alone -/

section Request

variable {me : Nat} {store : Store} {enrollment : EnrollmentCreate}

/-- It does what the operation does with the id and the time it draws. -/
theorem evaluates_enroll {answer : Except Exc Enrollment} {last : Store}
    (runs : Evaluates draws me (createEnrollment enrollment).run store answer
      last) :
    ∃ choice, enroll enrollment choice (tablesOf store) =
      (tablesOf last, some (responseOf answer)) := by
  obtain ⟨choice, result, _, takes, responds⟩ :=
    lin_evaluates _ (lin_of_takes takes_createEnrollment) trivial runs
  exact ⟨choice, responds ▸ takes⟩

variable (me store enrollment) in
theorem exists_evaluates :
    ∃ answer last, Evaluates draws me (createEnrollment enrollment).run store
      answer last := by
  obtain ⟨newId, fresh⟩ := exists_fresh (tablesOf store)
  have drawn : ∀ label later, tablesOf later = tablesOf store →
      enrollmentDiscipline.ok label { newId := newId } later := by
    intro label later same
    have unused : (tablesOf later).enrollments.find? newId = none := by
      rw [same]
      exact fresh
    exact ⟨rfl, fun _ => unused⟩
  have lin := @lin_of_takes me store enrollment _ takes_createEnrollment
  obtain ⟨answer, last, _, runs, _⟩ :=
    lin_finishes (D := enrollmentDiscipline) draws_possible _ store lin trivial
      { newId := newId } drawn
  exact ⟨answer, last, runs⟩

end Request

/-- A request that does not set both flags ends, and its response and what it
leaves of the tables are exactly what the tables ask for. -/
theorem create_enrollment_outcomes (me : Nat) (store : Store)
    (enrollment : EnrollmentCreate)
    (apart : ¬ (enrollment.isActive = true ∧ enrollment.isWithdrawn = true)) :
    (∃ answer last, Evaluates draws me (createEnrollment enrollment).run store
      answer last) ∧
    ∀ answer last, Evaluates draws me (createEnrollment enrollment).run store
      answer last →
      Exact enrollment (tablesOf store) (responseOf answer)
        (tablesOf last) := by
  refine ⟨exists_evaluates me store enrollment, ?_⟩
  intro answer last runs
  obtain ⟨choice, takes⟩ := evaluates_enroll runs
  exact exact_of_enroll apart takes

/-- The defaults of the payload set one flag only. -/
theorem create_enrollment_outcomes_first :
    (∃ answer last, Evaluates draws 0 (createEnrollment firstRequest).run
      openStore answer last) ∧
    ∀ answer last, Evaluates draws 0 (createEnrollment firstRequest).run
      openStore answer last →
      Exact firstRequest (tablesOf openStore) (responseOf answer)
        (tablesOf last) :=
  create_enrollment_outcomes 0 openStore firstRequest (by decide)

def farRequest : EnrollmentCreate :=
  { firstRequest with
    studentId := 2147483648
    studentIdPositive := by decide }

def bothFlags : EnrollmentCreate := { firstRequest with isWithdrawn := true }

/-- An unknown student is not answered 404 when the id does not fit, and a
request that sets both flags is answered 409 beside no other enrollment. -/
theorem create_enrollment_outcomes_off :
    ¬ (∀ answer last, Evaluates draws 0 (createEnrollment farRequest).run
      openStore answer last →
      (responseOf answer = .refused 404 ↔
        Missing farRequest (tablesOf openStore))) ∧
    ¬ (∀ answer last, Evaluates draws 0 (createEnrollment bothFlags).run
      openStore answer last →
      (responseOf answer = .refused 409 ↔
        ¬ Missing bothFlags (tablesOf openStore) ∧
        Duplicate bothFlags (tablesOf openStore))) := by
  constructor
  · intro claimed
    obtain ⟨answer, last, runs⟩ := exists_evaluates 0 openStore farRequest
    obtain ⟨choice, takes⟩ := evaluates_enroll runs
    have refused : refusal farRequest (tablesOf openStore) = some 422 := rfl
    rw [enroll_refused refused] at takes
    have response := Option.some.inj (Prod.ext_iff.mp takes).2
    have missing : Missing farRequest (tablesOf openStore) := .inl rfl
    have answered := (claimed answer last runs).mpr missing
    rw [← response] at answered
    cases answered
  · intro claimed
    obtain ⟨answer, last, runs⟩ := exists_evaluates 0 openStore bothFlags
    obtain ⟨choice, takes⟩ := evaluates_enroll runs
    have accepted : refusal bothFlags (tablesOf openStore) = none := rfl
    have checks : enrollmentChecks (bothFlags.row choice) = false := rfl
    have response : responseOf answer = .refused 409 := by
      simp only [enroll, accepted, checks, Bool.false_eq_true, and_false,
        if_false, Prod.mk.injEq, Option.some.injEq] at takes
      exact takes.2.symm
    obtain ⟨_, row, member, _⟩ := (claimed answer last runs).mp response
    exact absurd member List.not_mem_nil

end SystemUni.Enrollments.Outcomes
