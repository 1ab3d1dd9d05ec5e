import ContentSearch.Decimal.Basic
import Mathlib.Algebra.Field.Rat
import Mathlib.Algebra.GroupWithZero.Basic
import Mathlib.Data.Rat.Cast.CharZero
import Mathlib.Tactic.Ring

/-!
# Denoted numbers

A stored decimal denotes a rational number.  Dropping zeros at the end of the
mantissa does not change the number, and a mantissa that does not end with a
zero leaves no choice of the scale.  So decimals are compared as the numbers
that they denote, although they are compared by their shortest stored forms.
-/

namespace ContentSearch

namespace Decimal

/-- The denoted number. -/
def value (decimal : Decimal) : ℚ :=
  decimal.mantissa * 10 ^ (-decimal.scale)

theorem ten_zpow_ne_zero (exponent : Int) : (10 : ℚ) ^ exponent ≠ 0 :=
  zpow_ne_zero exponent (by norm_num)

theorem value_eq_zero_iff (decimal : Decimal) :
    decimal.value = 0 ↔ decimal.mantissa = 0 := by
  simp [value, ten_zpow_ne_zero]

theorem value_ofInt (number : Int) : (ofInt number).value = number := by
  simp [value, ofInt]

/-- A number has one mantissa at every scale. -/
theorem eq_of_value_eq {first second : Decimal}
    (sameScale : first.scale = second.scale)
    (sameValue : first.value = second.value) : first = second := by
  obtain ⟨mantissa, scale⟩ := first
  obtain ⟨otherMantissa, otherScale⟩ := second
  obtain rfl : scale = otherScale := sameScale
  have mantissas : (mantissa : ℚ) = otherMantissa :=
    mul_right_cancel₀ (ten_zpow_ne_zero _) sameValue
  rw [Int.cast_injective mantissas]

/-- Zeros at the end of the mantissa do not count if the scale counts them. -/
theorem value_shift (mantissa scale : Int) (zeros : Nat) :
    (⟨mantissa * 10 ^ zeros, scale + zeros⟩ : Decimal).value =
      (⟨mantissa, scale⟩ : Decimal).value := by
  have power : (10 : ℚ) ^ (-scale) =
      10 ^ zeros * 10 ^ (-(scale + zeros)) := by
    rw [← zpow_natCast, ← zpow_add₀ (by norm_num)]
    congr 1
    ring
  rw [value, value, power]
  push_cast
  ring

theorem mantissa_eq_mul_of_value_eq {first second : Decimal}
    (sameValue : first.value = second.value) {zeros : Nat}
    (scaleEq : second.scale = first.scale + zeros) :
    second.mantissa = first.mantissa * 10 ^ zeros := by
  have shifted := value_shift first.mantissa first.scale zeros
  have same : second = ⟨first.mantissa * 10 ^ zeros, first.scale + zeros⟩ :=
    eq_of_value_eq scaleEq (sameValue.symm.trans shifted.symm)
  rw [same]

theorem value_strip (mantissa : Nat) (scale : Int) :
    (⟨(strip mantissa scale).1, (strip mantissa scale).2⟩ : Decimal).value =
      (⟨mantissa, scale⟩ : Decimal).value := by
  fun_induction strip mantissa scale with
  | case1 mantissa scale ends inductionHypothesis =>
      have tens : ((mantissa / 10 : Nat) : Int) * 10 ^ 1 = mantissa := by
        omega
      have shifted := value_shift (mantissa / 10 : Nat) (scale - 1) 1
      rw [inductionHypothesis, ← shifted, tens]
      congr 2
      omega
  | case2 mantissa scale ends => rfl

theorem strip_not_dvd {mantissa : Nat} (nonzero : mantissa ≠ 0)
    (scale : Int) : ¬ 10 ∣ (strip mantissa scale).1 := by
  fun_induction strip mantissa scale with
  | case1 mantissa scale ends inductionHypothesis =>
      apply inductionHypothesis
      omega
  | case2 mantissa scale ends =>
      intro divides
      exact ends ⟨nonzero, Nat.mod_eq_zero_of_dvd divides⟩

/-- The mantissa does not end with a zero, except that of zero. -/
def IsReduced (decimal : Decimal) : Prop :=
  decimal = ⟨0, 0⟩ ∨ ¬ 10 ∣ decimal.mantissa

theorem reduced_eq_of_ne_zero {decimal : Decimal}
    (nonzero : decimal.mantissa ≠ 0) :
    decimal.reduced =
      ⟨decimal.mantissa.sign *
        (strip decimal.mantissa.natAbs decimal.scale).1,
        (strip decimal.mantissa.natAbs decimal.scale).2⟩ := by
  rw [reduced, if_neg nonzero]
  by_cases negative : decimal.mantissa < 0
  · simp [negative, Int.sign_eq_neg_one_of_neg negative]
  · have positive : 0 < decimal.mantissa := by omega
    simp [negative, Int.sign_eq_one_of_pos positive]

theorem isReduced_reduced (decimal : Decimal) : decimal.reduced.IsReduced := by
  by_cases zero : decimal.mantissa = 0
  · left
    rw [reduced, if_pos zero]
  · right
    have stripped := strip_not_dvd (Int.natAbs_ne_zero.mpr zero) decimal.scale
    rw [reduced_eq_of_ne_zero zero]
    intro divides
    have absolute := Int.natAbs_dvd_natAbs.mpr divides
    rw [Int.natAbs_mul, Int.natAbs_sign_of_ne_zero zero, Nat.one_mul,
      Int.natAbs_natCast] at absolute
    exact stripped absolute

theorem value_reduced (decimal : Decimal) :
    decimal.reduced.value = decimal.value := by
  by_cases zero : decimal.mantissa = 0
  · rw [reduced, if_pos zero, (value_eq_zero_iff decimal).mpr zero]
    simp [value]
  · have signed (sign : Int) (mantissa : Nat) (scale : Int) :
        (⟨sign * mantissa, scale⟩ : Decimal).value =
          sign * (⟨mantissa, scale⟩ : Decimal).value := by
      rw [value, value]
      push_cast
      ring
    rw [reduced_eq_of_ne_zero zero, signed, value_strip, ← signed,
      Int.sign_mul_natAbs]

theorem IsReduced.eq_zero {decimal : Decimal} (isReduced : decimal.IsReduced)
    (zero : decimal.mantissa = 0) : decimal = ⟨0, 0⟩ := by
  rcases isReduced with isZero | notDivisible
  · exact isZero
  · exact absurd (zero ▸ dvd_zero 10) notDivisible

theorem scale_le_of_value_eq {first second : Decimal}
    (sameValue : first.value = second.value)
    (notDivisible : ¬ 10 ∣ second.mantissa) : second.scale ≤ first.scale := by
  by_contra greater
  have scaleEq : second.scale =
      first.scale + ((second.scale - first.scale).toNat : Int) := by
    omega
  have mantissaEq := mantissa_eq_mul_of_value_eq sameValue scaleEq
  have zeros : (second.scale - first.scale).toNat ≠ 0 := by
    omega
  apply notDivisible
  rw [mantissaEq]
  exact Dvd.dvd.mul_left (dvd_pow_self 10 zeros) _

/-- A number has one shortest stored form. -/
theorem IsReduced.eq_of_value_eq {first second : Decimal}
    (firstReduced : first.IsReduced) (secondReduced : second.IsReduced)
    (sameValue : first.value = second.value) : first = second := by
  by_cases zero : first.mantissa = 0
  · have secondZero : second.mantissa = 0 := by
      rw [← value_eq_zero_iff, ← sameValue, value_eq_zero_iff]
      exact zero
    rw [firstReduced.eq_zero zero, secondReduced.eq_zero secondZero]
  · have secondNonzero : second.mantissa ≠ 0 := by
      rw [Ne, ← value_eq_zero_iff, ← sameValue, value_eq_zero_iff]
      exact zero
    have firstEnds : ¬ 10 ∣ first.mantissa := by
      rcases firstReduced with rfl | ends
      · exact absurd rfl zero
      · exact ends
    have secondEnds : ¬ 10 ∣ second.mantissa := by
      rcases secondReduced with rfl | ends
      · exact absurd rfl secondNonzero
      · exact ends
    have sameScale : first.scale = second.scale :=
      le_antisymm (scale_le_of_value_eq sameValue.symm firstEnds)
        (scale_le_of_value_eq sameValue secondEnds)
    exact Decimal.eq_of_value_eq sameScale sameValue

theorem reduced_eq_iff_value_eq (first second : Decimal) :
    first.reduced = second.reduced ↔ first.value = second.value := by
  constructor
  · intro equal
    rw [← value_reduced first, equal, value_reduced]
  · intro sameValue
    apply (isReduced_reduced first).eq_of_value_eq (isReduced_reduced second)
    rw [value_reduced, value_reduced, sameValue]

/-- Decimals are the same exactly if they denote the same number. -/
theorem same_iff_value_eq (first second : Decimal) :
    first.same second = true ↔ first.value = second.value := by
  rw [same, beq_iff_eq, reduced_eq_iff_value_eq]

end Decimal

end ContentSearch
