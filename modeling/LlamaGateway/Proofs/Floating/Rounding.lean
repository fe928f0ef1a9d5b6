import LlamaGateway.Floating.Basic
import Mathlib.Algebra.Order.Ring.Nat

/-!
# Rounding to a format

The unit of a fraction is chosen from the leading bits of its parts. It goes into the fraction less
often than the precision of the format can count, so a significand that rounding carries beyond the
last bit is replaced, and no value of a format has more bits than the format.

The search for the coarsest decimal grid gives up after some steps, with no digits but a zero. For a
significand of at most 53 bits this never happens among the powers of ten whose decimals could be
written with zeros behind their digits: the grids there are finer than the rounding interval.
-/

namespace LlamaGateway

namespace Floating

/-- A rounded quotient is off by at most half a unit. -/
theorem roundHalfEven_near (numerator : Nat) {denominator : Nat} (positive : 0 < denominator) :
    2 * numerator ≤ 2 * (roundHalfEven numerator denominator * denominator) + denominator ∧
      2 * (roundHalfEven numerator denominator * denominator) ≤ 2 * numerator + denominator := by
  have whole : numerator / denominator * denominator + numerator % denominator = numerator :=
    Nat.div_add_mod' numerator denominator
  have rest : numerator % denominator < denominator := Nat.mod_lt numerator positive
  have next : (numerator / denominator + 1) * denominator =
      numerator / denominator * denominator + denominator := Nat.succ_mul ..
  simp only [roundHalfEven]
  split
  · constructor <;> omega
  split
  · constructor <;> omega
  · rcases Nat.mod_two_eq_zero_or_one (numerator / denominator) with even | odd
    · rw [even, Nat.add_zero]
      constructor <;> omega
    · rw [odd]
      constructor <;> omega

/-- A rounded quotient exceeds the whole part by at most one. -/
theorem roundHalfEven_le (numerator denominator : Nat) :
    roundHalfEven numerator denominator ≤ numerator / denominator + 1 := by
  simp only [roundHalfEven]
  split
  · omega
  split <;> omega

/-- How often the unit of an exponent goes into a fraction. -/
def units (numerator denominator : Nat) (exponent : Int) : Nat :=
  (unscale numerator denominator exponent).1 / (unscale numerator denominator exponent).2

variable {numerator denominator : Nat}

/-- The next larger unit goes into it half as often. -/
theorem units_succ (numerator denominator : Nat) (exponent : Int) :
    units numerator denominator (exponent + 1) = units numerator denominator exponent / 2 := by
  cases exponent with
  | ofNat up =>
    have next : Int.ofNat up + 1 = Int.ofNat (up + 1) := rfl
    rw [next]
    simp only [units, unscale, Nat.pow_eq, Nat.pow_succ, ← Nat.mul_assoc]
    rw [Nat.div_div_eq_div_mul]
  | negSucc down =>
    have doubled : units numerator denominator (.negSucc down) / 2 =
        numerator * 2 ^ down / denominator := by
      simp only [units, unscale, Nat.pow_eq, Nat.pow_succ, ← Nat.mul_assoc]
      rw [Nat.div_div_eq_div_mul, Nat.mul_div_mul_right _ _ (by decide)]
    rw [doubled]
    cases down with
    | zero => simp [units, unscale]
    | succ down => rfl

theorem units_add_le (exponent : Int) (more : Nat) :
    units numerator denominator (exponent + more) ≤ units numerator denominator exponent := by
  induction more with
  | zero => simp
  | succ more induction =>
    rw [Int.natCast_succ, ← Int.add_assoc, units_succ]
    omega

/-- The unit at which the leading bits of a fraction differ by the precision goes into it less than
`2 ^ (precision + 1)` times. -/
theorem units_lt (numerator denominator precision : Nat) :
    units numerator denominator ((numerator.log2 : Int) - denominator.log2 - precision) <
      2 ^ (precision + 1) := by
  by_cases zero : denominator = 0
  · have never (exponent : Int) : units numerator 0 exponent = 0 := by
      cases exponent <;> simp [units, unscale]
    rw [zero, never]
    exact Nat.two_pow_pos _
  have least : 2 ^ denominator.log2 ≤ denominator := Nat.log2_self_le zero
  have greatest : numerator < 2 ^ (numerator.log2 + 1) := Nat.lt_log2_self
  cases scale : ((numerator.log2 : Int) - denominator.log2 - precision) with
  | ofNat up =>
    have bits : numerator.log2 + 1 = precision + 1 + (denominator.log2 + up) := by
      simp only [Int.ofNat_eq_natCast] at scale
      omega
    simp only [units, unscale, Nat.pow_eq]
    rw [Nat.div_lt_iff_lt_mul (Nat.mul_pos (by omega) (Nat.two_pow_pos up))]
    calc numerator < 2 ^ (numerator.log2 + 1) := greatest
      _ = 2 ^ (precision + 1) * (2 ^ denominator.log2 * 2 ^ up) := by
        rw [bits, Nat.pow_add _ _ (_ + _), Nat.pow_add _ _ up]
      _ ≤ 2 ^ (precision + 1) * (denominator * 2 ^ up) :=
        Nat.mul_le_mul_left _ (Nat.mul_le_mul_right _ least)
  | negSucc down =>
    have bits : numerator.log2 + 1 + (down + 1) = precision + 1 + denominator.log2 := by omega
    simp only [units, unscale, Nat.pow_eq]
    rw [Nat.div_lt_iff_lt_mul (by omega)]
    calc numerator * 2 ^ (down + 1) < 2 ^ (numerator.log2 + 1) * 2 ^ (down + 1) :=
        Nat.mul_lt_mul_of_pos_right greatest (Nat.two_pow_pos _)
      _ = 2 ^ (precision + 1) * 2 ^ denominator.log2 := by rw [← Nat.pow_add, bits, Nat.pow_add]
      _ ≤ 2 ^ (precision + 1) * denominator := Nat.mul_le_mul_left _ least

namespace Format

/-- The unit of a fraction goes into it less than `2 ^ precision` times. -/
theorem units_unitExponent_lt (format : Format) (numerator denominator : Nat) :
    units numerator denominator (format.unitExponent numerator denominator) <
      2 ^ format.precision := by
  obtain ⟨low, isLow⟩ : ∃ low : Int,
      low = (numerator.log2 : Int) - denominator.log2 - format.precision := ⟨_, rfl⟩
  have double : units numerator denominator low < 2 ^ (format.precision + 1) :=
    isLow ▸ units_lt numerator denominator format.precision
  have atLeast {exact : Int} (few : units numerator denominator exact < 2 ^ format.precision) :
      units numerator denominator (max exact format.minExponent) < 2 ^ format.precision := by
    obtain ⟨more, isMore⟩ := Int.le.dest (Int.le_max_left exact format.minExponent)
    rw [← isMore]
    exact Nat.lt_of_le_of_lt (units_add_le exact more) few
  simp only [unitExponent, ← isLow]
  refine atLeast ?_
  split
  · next few => exact few
  · rw [units_succ]
    rw [Nat.pow_succ] at double
    omega

end Format

/-- The value has no more bits than a double. -/
def Narrow : Floating → Prop
  | .finite _ significand _ => significand < 2 ^ 53
  | .infinite _ | .nan => True

/-- Values of a format without more bits than a double are narrow. -/
theorem narrow_nearest {format : Format} (bits : format.precision ≤ 53) (negative : Bool)
    (numerator denominator : Nat) : (format.nearest negative numerator denominator).Narrow := by
  have fits : 2 ^ format.precision ≤ 2 ^ 53 := Nat.pow_le_pow_right (by decide) bits
  have carried : 2 ^ (format.precision - 1) < 2 ^ 53 :=
    Nat.pow_lt_pow_right (by decide) (by omega)
  have few := format.units_unitExponent_lt numerator denominator
  have rounded := roundHalfEven_le
    (unscale numerator denominator (format.unitExponent numerator denominator)).1
    (unscale numerator denominator (format.unitExponent numerator denominator)).2
  rw [← units] at rounded
  have orInfinite {significand : Nat} (narrow : significand < 2 ^ 53) (exponent : Int) :
      (if format.maxExponent < exponent then infinite negative
        else finite negative significand exponent).Narrow := by
    split
    · trivial
    · exact narrow
  simp only [Format.nearest, Nat.pow_eq]
  split
  · exact Nat.two_pow_pos 53
  refine orInfinite ?_ _
  split
  · exact carried
  · omega

theorem Narrow.negate {value : Floating} (narrow : value.Narrow) : value.negate.Narrow := by
  cases value <;> exact narrow

theorem narrow_timesPowerOfTen (value : Floating) (power : Nat) :
    (value.timesPowerOfTen power).Narrow := by
  simp only [timesPowerOfTen]
  split
  · exact narrow_nearest (by decide) _ _ _
  · trivial

theorem narrow_overPowerOfTen (value : Floating) (power : Nat) :
    (value.overPowerOfTen power).Narrow := by
  simp only [overPowerOfTen]
  split
  · exact narrow_nearest (by decide) _ _ _
  · trivial

end Floating

namespace Floating

namespace RoundingInterval

/-- The values that round to a positive one are positive. -/
theorem lower_around_pos (format : Format) {significand : Nat} (nonzero : significand ≠ 0)
    (exponent : Int) : 0 < (around format significand exponent).lower := by
  have scale : 0 < (magnitude 1 (exponent - 2)).1 := by
    cases exponent - 2 with
    | ofNat up => simp [magnitude]
    | negSucc down => exact Nat.one_pos
  simp only [around]
  refine Nat.mul_pos ?_ scale
  split <;> omega

variable {interval : RoundingInterval} {exponent : Int}

/-- Zero is in no interval of positive values. -/
theorem not_contains_zero (positive : 0 < interval.lower) :
    interval.contains 0 exponent = false := by
  have nonzero : interval.lower ≠ 0 := Nat.ne_of_gt positive
  cases exponent <;> simp [contains, nonzero]

theorem contains_of_pointOn? {digits : Nat} (found : interval.pointOn? exponent = some digits) :
    interval.contains digits exponent = true := by
  have either {near far : Nat} (chosen : (if interval.contains near exponent then some near
      else if interval.contains far exponent then some far else none) = some digits) :
      interval.contains digits exponent = true := by
    split at chosen
    · next inside =>
      cases chosen
      exact inside
    split at chosen
    · next inside =>
      cases chosen
      exact inside
    · cases chosen
  exact either found

theorem digits_ne_zero_of_pointOn? (positive : 0 < interval.lower) {digits : Nat}
    (found : interval.pointOn? exponent = some digits) : digits ≠ 0 := by
  rintro rfl
  have inside := contains_of_pointOn? found
  rw [not_contains_zero positive] at inside
  cases inside

/-- A search without digits ends on a grid without a point. -/
theorem pointOn?_of_coarsest (positive : 0 < interval.lower) {steps : Nat}
    (lost : (interval.coarsest steps exponent).digits = 0) :
    (interval.coarsest steps exponent).exponent = exponent - steps ∧
      interval.pointOn? (exponent - steps) = none := by
  induction steps generalizing exponent with
  | zero =>
    refine ⟨(Int.sub_zero exponent).symm, ?_⟩
    rw [Int.natCast_zero, Int.sub_zero]
    cases found : interval.pointOn? exponent with
    | none => rfl
    | some digits =>
      rw [coarsest, found] at lost
      exact absurd lost (digits_ne_zero_of_pointOn? positive found)
  | succ steps induction =>
    rw [coarsest] at lost ⊢
    cases found : interval.pointOn? exponent with
    | none =>
      rw [found] at lost
      have later : exponent - 1 - steps = exponent - (steps + 1 : Nat) := by omega
      rw [← later]
      exact induction lost
    | some digits =>
      rw [found] at lost
      exact absurd lost (digits_ne_zero_of_pointOn? positive found)

/-- A grid of naturals has a point in an interval that is wider than its unit on either side. -/
theorem pointOn?_ne_none_of_wide {up : Nat} (whole : interval.denominator = 1)
    (below : 2 * interval.lower + 10 ^ up < 2 * interval.value)
    (above : 2 * interval.value + 10 ^ up < 2 * interval.upper) :
    interval.pointOn? up ≠ none := by
  have unit_pos : 0 < 10 ^ up := Nat.pow_pos (by decide)
  obtain ⟨least, greatest⟩ := roundHalfEven_near interval.value unit_pos
  have inside : interval.contains (roundHalfEven interval.value (10 ^ up)) (.ofNat up) = true := by
    simp only [contains, whole, Nat.mul_one, Nat.pow_eq]
    split <;> simp only [Bool.and_eq_true, decide_eq_true_eq] <;> constructor <;> omega
  have isFound : interval.pointOn? (.ofNat up) = some (roundHalfEven interval.value (10 ^ up)) := by
    simp only [pointOn?, whole, Nat.one_mul, Nat.pow_eq, inside, if_true]
  intro nowhere
  rw [← Int.ofNat_eq_natCast, isFound] at nowhere
  cases nowhere

/-- A grid with units below half a unit of the value has a point in the interval. -/
theorem pointOn?_around_ne_none (format : Format) {significand shift up : Nat}
    (nonzero : significand ≠ 0) (fine : 10 ^ up < 2 * 2 ^ shift) :
    (around format significand (shift + 2 : Nat)).pointOn? up ≠ none := by
  have scale : magnitude 1 (((shift + 2 : Nat) : Int) - 2) = (2 ^ shift, 1) := by
    have isShift : ((shift + 2 : Nat) : Int) - 2 = shift := by omega
    rw [isShift]
    exact congrArg (·, 1) (Nat.one_mul _)
  have lower_le : (around format significand (shift + 2 : Nat)).lower ≤
      (4 * significand - 1) * 2 ^ shift := by
    simp only [around, scale]
    refine Nat.mul_le_mul_right _ ?_
    split <;> omega
  have split_value : 4 * significand * 2 ^ shift =
      (4 * significand - 1) * 2 ^ shift + 2 ^ shift := by
    rw [← Nat.succ_mul]
    congr 1
    omega
  refine pointOn?_ne_none_of_wide (by simp only [around, scale]) ?_ ?_
  · have value_eq : (around format significand (shift + 2 : Nat)).value =
        4 * significand * 2 ^ shift := by simp only [around, scale]
    omega
  · simp only [around, scale, Nat.add_mul]
    omega

end RoundingInterval

/-- The shortest decimal of a positive value has digits, unless its power of ten is none of those
whose decimals are written with zeros behind the digits. -/
theorem digits_shortest_ne_zero (format : Format) {significand : Nat} {exponent : Int}
    (nonzero : significand ≠ 0) (narrow : significand < 2 ^ 53)
    (positive : 0 < (shortest format significand exponent).exponent)
    (small : (shortest format significand exponent).exponent ≤ 15) :
    (shortest format significand exponent).digits ≠ 0 := by
  intro lost
  obtain ⟨last, nowhere⟩ := RoundingInterval.pointOn?_of_coarsest
    (RoundingInterval.lower_around_pos format nonzero exponent) lost
  have bits : significand.log2 < 53 := (Nat.log2_lt nonzero).2 narrow
  rw [shortest, last] at positive small
  obtain ⟨up, isUp⟩ := Int.eq_ofNat_of_zero_le (Int.le_of_lt positive)
  obtain ⟨shift, rfl⟩ : ∃ shift : Nat, exponent = (shift + 2 : Nat) :=
    ⟨(exponent - 2).toNat, by omega⟩
  have fits : 4 * up ≤ shift + 1 := by omega
  have fine : 10 ^ up < 2 * 2 ^ shift := by
    calc 10 ^ up < 16 ^ up := Nat.pow_lt_pow_left (by decide) (by omega)
      _ = 2 ^ (4 * up) := by rw [Nat.pow_mul]
      _ ≤ 2 ^ (shift + 1) := Nat.pow_le_pow_right (by decide) fits
      _ = 2 * 2 ^ shift := Nat.pow_succ'
  rw [isUp] at nowhere
  exact RoundingInterval.pointOn?_around_ne_none format nonzero fine nowhere

end Floating

end LlamaGateway
