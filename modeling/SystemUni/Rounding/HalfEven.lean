import Mathlib

/-!
# Rounding half to even

An integer rounds a value when it is no further than one half away and, where
it is exactly one half away, even.  There is at most one such integer; it grows
with the value and is the value itself where that is an integer.
-/

set_option autoImplicit false

namespace Rounding

variable {K : Type} [Field K] [LinearOrder K] [IsStrictOrderedRing K]

structure HalfEven (value : K) (rounded : ℤ) : Prop where
  near : |value - rounded| ≤ 1 / 2
  even : |value - rounded| = 1 / 2 → Even rounded

variable {value other : K} {rounded roundedOther : ℤ}

theorem HalfEven.bounds (rounds : HalfEven value rounded) :
    (rounded : K) - 1 / 2 ≤ value ∧ value ≤ rounded + 1 / 2 := by
  have near := abs_le.mp rounds.near
  constructor
  · linarith [near.1]
  · linarith [near.2]

theorem halfEven_intCast (number : ℤ) : HalfEven (number : K) number := by
  constructor
  · simp
  · intro half
    simp at half

/-- A greater value is not rounded to a smaller integer: in between the two
would be adjacent and both values the midpoint, which is rounded to the even
one. -/
theorem HalfEven.mono (rounds : HalfEven value rounded)
    (roundsOther : HalfEven other roundedOther) (order : value ≤ other) :
    rounded ≤ roundedOther := by
  by_contra less
  have next : roundedOther + 1 ≤ rounded := by omega
  have gap : (roundedOther : K) + 1 ≤ rounded := by exact_mod_cast next
  have lower := rounds.bounds.1
  have upper := roundsOther.bounds.2
  have isMidpoint : value = rounded - 1 / 2 := by linarith
  have isOther : other = roundedOther + 1 / 2 := by linarith
  have adjacent : (rounded : K) = roundedOther + 1 := by linarith
  have isNext : rounded = roundedOther + 1 := by exact_mod_cast adjacent
  have even : Even rounded := by
    apply rounds.even
    rw [isMidpoint, abs_eq (by norm_num)]
    right
    ring
  have evenOther : Even roundedOther := by
    apply roundsOther.even
    rw [isOther, abs_eq (by norm_num)]
    left
    ring
  rw [isNext, Int.even_add_one] at even
  exact even evenOther

theorem HalfEven.between (rounds : HalfEven value rounded) {lower upper : ℤ}
    (atLeast : (lower : K) ≤ value) (atMost : value ≤ upper) :
    lower ≤ rounded ∧ rounded ≤ upper :=
  ⟨(halfEven_intCast lower).mono rounds atLeast,
    rounds.mono (halfEven_intCast upper) atMost⟩

/-- A fraction by its quotient and remainder, the remainder below one half. -/
theorem halfEven_below {quotient : ℤ} {fraction : K}
    (isValue : value = quotient + fraction) (nonnegative : 0 ≤ fraction)
    (below : fraction < 1 / 2) : HalfEven value quotient := by
  have distance : |value - quotient| = fraction := by
    rw [isValue, add_sub_cancel_left, abs_of_nonneg nonnegative]
  constructor
  · rw [distance]
    exact below.le
  · intro half
    rw [distance] at half
    exact absurd half below.ne

/-- The remainder above one half. -/
theorem halfEven_above {quotient : ℤ} {fraction : K}
    (isValue : value = quotient + fraction) (above : 1 / 2 < fraction)
    (atMost : fraction ≤ 1) : HalfEven value (quotient + 1) := by
  have distance : |value - ((quotient + 1 : ℤ) : K)| = 1 - fraction := by
    rw [isValue, abs_sub_comm]
    push_cast
    rw [abs_of_nonneg (by linarith)]
    ring
  constructor
  · rw [distance]
    linarith
  · intro half
    rw [distance] at half
    linarith

/-- A tie above an even quotient. -/
theorem halfEven_tieDown {quotient : ℤ} (isValue : value = quotient + 1 / 2)
    (even : Even quotient) : HalfEven value quotient := by
  have distance : |value - quotient| = 1 / 2 := by
    rw [isValue, add_sub_cancel_left, abs_of_pos one_half_pos]
  exact ⟨distance.le, fun _ => even⟩

theorem halfEven_tieUp {quotient : ℤ} (isValue : value = quotient + 1 / 2)
    (odd : ¬ Even quotient) : HalfEven value (quotient + 1) := by
  have distance : |value - ((quotient + 1 : ℤ) : K)| = 1 / 2 := by
    rw [isValue, abs_eq (by norm_num)]
    right
    push_cast
    ring
  exact ⟨distance.le, fun _ => Int.even_add_one.mpr odd⟩

end Rounding
