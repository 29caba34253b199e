import SystemUni.Rounding.HalfEven
import SystemUni.Runtime.Rules
import SystemUni.Services.Reports

/-!
# The grade point average

The `gpa` of a transcript as a function of the multiset of a student's
enrollments: the mean of the grade points, rounded half to even at two decimals.
-/

set_option autoImplicit false

namespace SystemUni.Services.Gpa

open Interleaving Rounding
open SystemUni.Runtime.Errors
open SystemUni.Runtime.Statements
open SystemUni.Runtime.Rules
open SystemUni.Models.Rows
open SystemUni.Models.Jobs
open SystemUni.Services.Reports

/-! ## What the functions of the source compute -/

theorem gradePoints_le (grade : Int) : gradePoints grade ≤ 400 := by
  unfold gradePoints
  split_ifs <;> omega

/-- One branch of the scale: what is below the bound counts for less. -/
theorem branch_mono {bound grade raised : Int} {points lower raisedLower : Nat}
    (order : grade ≤ raised) (less : lower ≤ points)
    (rest : lower ≤ raisedLower) :
    (if bound ≤ grade then points else lower) ≤
      if bound ≤ raised then points else raisedLower := by
  by_cases reached : bound ≤ grade
  · rw [if_pos reached, if_pos (reached.trans order)]
  · rw [if_neg reached]
    split
    · exact less
    · exact rest

theorem gradePoints_mono {grade raised : Int} (order : grade ≤ raised) :
    gradePoints grade ≤ gradePoints raised := by
  unfold gradePoints
  refine branch_mono order ?_ (branch_mono order ?_ (branch_mono order ?_
    (branch_mono order ?_ (branch_mono order ?_ (branch_mono order ?_
      (branch_mono order (Nat.zero_le 200) le_rfl))))))
  all_goals split_ifs <;> omega

theorem roundHalfEven_rounds (numerator : Nat) {denominator : Nat}
    (positive : 0 < denominator) :
    HalfEven ((numerator : ℚ) / denominator)
      (roundHalfEven numerator denominator) := by
  have rational : (0 : ℚ) < denominator := by exact_mod_cast positive
  have isValue : (numerator : ℚ) / denominator =
      ((numerator / denominator : ℕ) : ℤ) +
        ((numerator % denominator : ℕ) : ℚ) / denominator := by
    have divided : ((numerator / denominator : ℕ) : ℚ) * denominator +
        (numerator % denominator : ℕ) = numerator := by
      exact_mod_cast Nat.div_add_mod' numerator denominator
    rw [Int.cast_natCast]
    field_simp
    linarith
  have nonnegative : (0 : ℚ) ≤
      ((numerator % denominator : ℕ) : ℚ) / denominator := by positivity
  have atMost : ((numerator % denominator : ℕ) : ℚ) / denominator ≤ 1 := by
    rw [div_le_one rational]
    exact_mod_cast (Nat.mod_lt numerator positive).le
  unfold roundHalfEven
  simp only
  by_cases below : 2 * (numerator % denominator) < denominator
  · rw [if_pos below]
    refine halfEven_below isValue nonnegative ?_
    rw [div_lt_div_iff₀ rational two_pos]
    exact_mod_cast (by omega)
  rw [if_neg below]
  by_cases above : denominator < 2 * (numerator % denominator)
  · rw [if_pos above]
    refine halfEven_above isValue ?_ atMost
    rw [div_lt_div_iff₀ two_pos rational]
    exact_mod_cast (by omega)
  rw [if_neg above]
  have tie : ((numerator % denominator : ℕ) : ℚ) / denominator = 1 / 2 := by
    rw [div_eq_div_iff rational.ne' two_ne_zero]
    exact_mod_cast (by omega)
  rw [tie] at isValue
  by_cases even : numerator / denominator % 2 = 0
  · rw [if_pos even]
    exact halfEven_tieDown isValue
      ((Int.even_coe_nat _).mpr (Nat.even_iff.mpr even))
  · rw [if_neg even]
    refine halfEven_tieUp isValue ?_
    rw [Int.even_coe_nat, Nat.even_iff]
    exact even

/-! ## The gpa of a multiset of enrollments -/

def validGrades (enrollments : Multiset Enrollment) : Multiset Int :=
  enrollments.filterMap fun row => row.grade

/-- The scale, from its lowest range up. -/
def scale (grade : Int) : ℚ :=
  if grade < 60 then 0
  else if grade < 65 then 2
  else if grade < 70 then 23 / 10
  else if grade < 75 then 27 / 10
  else if grade < 80 then 3
  else if grade < 85 then 33 / 10
  else if grade < 90 then 37 / 10
  else 4

/-- The hundredths of the source are those of the scale. -/
theorem scale_eq (grade : Int) : scale grade = (gradePoints grade : ℚ) / 100 := by
  unfold scale gradePoints
  split_ifs <;> first | omega | norm_num

/-- The exact mean of the grade points. -/
def meanPoints (enrollments : Multiset Enrollment) : ℚ :=
  ((validGrades enrollments).map scale).sum / (validGrades enrollments).card

def gpaOf (enrollments : Multiset Enrollment) : ℚ :=
  if validGrades enrollments = 0 then 0
  else (roundHalfEven ((validGrades enrollments).map gradePoints).sum
    (validGrades enrollments).card : ℚ) / 100

theorem gpa_transcriptOf (student : Student) (rows : List Enrollment) :
    (transcriptOf student rows).gpa = gpaOf rows := by
  simp [transcriptOf, calculateGpa, gpaOf, validGrades]

theorem meanPoints_eq (enrollments : Multiset Enrollment) :
    100 * meanPoints enrollments =
      (((validGrades enrollments).map gradePoints).sum : ℚ) /
        (validGrades enrollments).card := by
  unfold meanPoints
  rw [funext scale_eq, Multiset.sum_map_div, Nat.cast_multiset_sum,
    Multiset.map_map]
  simp only [Function.comp_apply]
  ring

theorem gpaOf_rounds (enrollments : Multiset Enrollment) :
    ∃ rounded : ℤ, gpaOf enrollments = rounded / 100 ∧
      HalfEven (100 * meanPoints enrollments) rounded := by
  rw [meanPoints_eq]
  unfold gpaOf
  by_cases nothing : validGrades enrollments = 0
  · refine ⟨0, ?_, ?_⟩
    · simp [nothing]
    · rw [nothing]
      simpa using halfEven_intCast (K := ℚ) 0
  · rw [if_neg nothing]
    refine ⟨_, ?_, roundHalfEven_rounds _ (Multiset.card_pos.mpr nothing)⟩
    rw [Int.cast_natCast]

theorem sum_gradePoints_le (grades : Multiset Int) :
    (grades.map gradePoints).sum ≤ 400 * grades.card := by
  have atMost : (grades.map gradePoints).sum ≤
      (grades.map gradePoints).card • 400 := by
    apply Multiset.sum_le_card_nsmul
    intro points member
    obtain ⟨grade, _, rfl⟩ := Multiset.mem_map.mp member
    exact gradePoints_le grade
  rw [Multiset.card_map, smul_eq_mul, mul_comm] at atMost
  exact atMost

theorem meanPoints_between (enrollments : Multiset Enrollment) :
    0 ≤ 100 * meanPoints enrollments ∧ 100 * meanPoints enrollments ≤ 400 := by
  rw [meanPoints_eq]
  constructor
  · positivity
  · apply div_le_of_le_mul₀ (by positivity) (by norm_num)
    exact_mod_cast sum_gradePoints_le (validGrades enrollments)

theorem validGrades_filter (enrollments : Multiset Enrollment) :
    validGrades (enrollments.filter fun row => row.grade.isSome = true) =
      validGrades enrollments := by
  unfold validGrades
  rw [Multiset.filterMap_filter]
  congr 1
  funext row
  cases row.grade with
  | none => rfl
  | some grade => rfl

theorem gpaOf_filter (enrollments : Multiset Enrollment) :
    gpaOf (enrollments.filter fun row => row.grade.isSome = true) =
      gpaOf enrollments := by
  unfold gpaOf
  rw [validGrades_filter]

theorem validGrades_cons {row : Enrollment} {grade : Int}
    (graded : row.grade = some grade) (rest : Multiset Enrollment) :
    validGrades (row ::ₘ rest) = grade ::ₘ validGrades rest :=
  Multiset.filterMap_cons_some _ _ _ graded

/-- Raising one grade raises the mean, or leaves it. -/
theorem meanPoints_raise {row : Enrollment} {grade raised : Int}
    (graded : row.grade = some grade) (order : grade ≤ raised)
    (rest : Multiset Enrollment) :
    100 * meanPoints (row ::ₘ rest) ≤
      100 * meanPoints ({ row with grade := some raised } ::ₘ rest) := by
  have isRaised : validGrades ({ row with grade := some raised } ::ₘ rest) =
      raised ::ₘ validGrades rest := validGrades_cons rfl rest
  rw [meanPoints_eq, meanPoints_eq, validGrades_cons graded, isRaised]
  simp only [Multiset.map_cons, Multiset.sum_cons, Multiset.card_cons]
  apply div_le_div_of_nonneg_right _ (by positivity)
  exact_mod_cast Nat.add_le_add_right (gradePoints_mono order) _

theorem gpaOf_raise {row : Enrollment} {grade raised : Int}
    (graded : row.grade = some grade) (order : grade ≤ raised)
    (rest : Multiset Enrollment) :
    gpaOf (row ::ₘ rest) ≤
      gpaOf ({ row with grade := some raised } ::ₘ rest) := by
  obtain ⟨rounded, isRounded, rounds⟩ := gpaOf_rounds (row ::ₘ rest)
  obtain ⟨higher, isHigher, roundsHigher⟩ :=
    gpaOf_rounds ({ row with grade := some raised } ::ₘ rest)
  have integers := rounds.mono roundsHigher (meanPoints_raise graded order rest)
  have rationals : (rounded : ℚ) ≤ higher := by exact_mod_cast integers
  rw [isRounded, isHigher]
  linarith

theorem gpaOf_between (enrollments : Multiset Enrollment) :
    0 ≤ gpaOf enrollments ∧ gpaOf enrollments ≤ 4 := by
  obtain ⟨rounded, isRounded, rounds⟩ := gpaOf_rounds enrollments
  obtain ⟨atLeast, atMost⟩ := meanPoints_between enrollments
  have integers : 0 ≤ rounded ∧ rounded ≤ 400 :=
    rounds.between (by exact_mod_cast atLeast) (by exact_mod_cast atMost)
  have nonnegative : (0 : ℚ) ≤ rounded := by exact_mod_cast integers.1
  have highest : (rounded : ℚ) ≤ 400 := by exact_mod_cast integers.2
  rw [isRounded]
  constructor
  · linarith
  · linarith

/-- Half of a hundredth is lost at most. -/
theorem gpaOf_near (enrollments : Multiset Enrollment) :
    |gpaOf enrollments - meanPoints enrollments| ≤ 5 / 1000 := by
  obtain ⟨rounded, isRounded, rounds⟩ := gpaOf_rounds enrollments
  obtain ⟨lower, upper⟩ := rounds.bounds
  rw [isRounded, abs_le]
  constructor
  · linarith
  · linarith

/-! ## The transcript -/

/-- Every call succeeds and the computation raises nothing. -/
def computes (choice : Choice) : Prop :=
  choice.call = .done ∧ choice.fault = none

instance : Answered computes := ⟨fun _ computed => computed.1⟩

/-- Alone, the transcript is that of the rows, unless the computation
raises. -/
theorem finishes_generateStudentTranscript {allowed : Choice → Prop}
    [Answered allowed] {me : Nat} {store : Store} {studentId : Id} :
    Finishes allowed me (generateStudentTranscript studentId)
      (fun answer later => later = store ∧
        answer = (store.db.tables.students.find? studentId).map fun student =>
          transcriptOf student (enrollmentsOf studentId store.db.tables))
      (fun exc later => later = store ∧
        ∃ choice, allowed choice ∧ choice.fault = some exc) store := by
  refine finishes_bind (finishes_query ?_)
  cases store.db.tables.students.find? studentId with
  | none => exact finishes_pure none ⟨rfl, rfl⟩
  | some student =>
      refine finishes_bind (finishes_query (finishes_bind (finishes_command
        fun choice allows => ?_)))
      cases fault : choice.fault with
      | some exc => exact finishes_throw exc ⟨rfl, choice, allows, fault⟩
      | none => exact finishes_pure _ ⟨rfl, rfl⟩

theorem finishes_computed {me : Nat} {store : Store} {studentId : Id} :
    Finishes computes me (generateStudentTranscript studentId)
      (fun answer later => later = store ∧
        answer = (store.db.tables.students.find? studentId).map fun student =>
          transcriptOf student (enrollmentsOf studentId store.db.tables))
      (fun _ _ => False) store := by
  refine finishes_mono finishes_generateStudentTranscript
    (fun _ _ transcribed => transcribed) ?_
  rintro exc later ⟨_, choice, computed, fault⟩
  rw [computed.2] at fault
  cases fault

/-- The `gpa` is fair: it does not depend on the order of the rows nor on
ungraded enrollments, lies between 0 and 4, is as near to the mean as two
decimals allow, and does not fall when a grade is raised. -/
theorem gpa_is_fair (enrollments : Multiset Enrollment) :
    (∀ (student : Student) (rows : List Enrollment),
      (rows : Multiset Enrollment) = enrollments →
        (transcriptOf student rows).gpa = gpaOf enrollments) ∧
    (∀ (me : Nat) (store : Store) (studentId : Id) (student : Student),
      store.db.tables.students.find? studentId = some student →
      (enrollmentsOf studentId store.db.tables : Multiset Enrollment) =
        enrollments →
        Finishes computes me (generateStudentTranscript studentId)
          (fun answer _ => answer.map Transcript.gpa = some (gpaOf enrollments))
          (fun _ _ => False) store) ∧
    (∀ others : Multiset Enrollment,
      (others.filter fun row => row.grade.isSome = true) =
        (enrollments.filter fun row => row.grade.isSome = true) →
          gpaOf others = gpaOf enrollments) ∧
    0 ≤ gpaOf enrollments ∧ gpaOf enrollments ≤ 4 ∧
    |gpaOf enrollments - meanPoints enrollments| ≤ 5 / 1000 ∧
    ∀ (row : Enrollment) (rest : Multiset Enrollment) (grade raised : Int),
      enrollments = row ::ₘ rest → row.grade = some grade → grade ≤ raised →
        gpaOf enrollments ≤
          gpaOf ({ row with grade := some raised } ::ₘ rest) := by
  obtain ⟨atLeast, atMost⟩ := gpaOf_between enrollments
  refine ⟨?_, ?_, ?_, atLeast, atMost, gpaOf_near enrollments, ?_⟩
  · rintro student rows rfl
    exact gpa_transcriptOf student rows
  · rintro me store studentId student found rfl
    refine finishes_mono finishes_computed ?_ fun _ _ raised => raised
    rintro answer later ⟨_, rfl⟩
    rw [found]
    exact congrArg some (gpa_transcriptOf student _)
  · intro others same
    rw [← gpaOf_filter others, same, gpaOf_filter]
  · rintro row rest grade raised rfl graded order
    exact gpaOf_raise graded order rest

end SystemUni.Services.Gpa
