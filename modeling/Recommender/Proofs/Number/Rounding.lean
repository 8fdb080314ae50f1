import Recommender.Number.Shortest

/-! The number nearest to a decimal depends on the size of the decimal alone, however it is split
into digits and an exponent. The bounds that settle extreme exponents first agree with rounding,
and the exact decimal of a number rounds to the number.
-/

namespace Recommender

-----------------------------------------------------------------------------------------
-- Quotients
-----------------------------------------------------------------------------------------

/-- A common factor changes no rounded quotient. -/
theorem roundQuotient_mul_right {factor : Nat} (positive : 0 < factor)
    (numerator denominator : Nat)
    : roundQuotient (numerator * factor) (denominator * factor)
      = roundQuotient numerator denominator := by
  have left : 2 * (numerator % denominator * factor) < denominator * factor
      ↔ 2 * (numerator % denominator) < denominator := by
    rw [← Nat.mul_assoc]
    exact Nat.mul_lt_mul_right positive
  have right : denominator * factor < 2 * (numerator % denominator * factor)
      ↔ denominator < 2 * (numerator % denominator) := by
    rw [← Nat.mul_assoc]
    exact Nat.mul_lt_mul_right positive
  simp only [roundQuotient, Nat.mul_div_mul_right _ _ positive, Nat.mul_mod_mul_right, left, right]

/-- A whole quotient is not rounded. -/
theorem roundQuotient_mul_self {denominator : Nat} (positive : 0 < denominator) (n : Nat)
    : roundQuotient (n * denominator) denominator = n := by
  simp [roundQuotient, Nat.mul_div_cancel n positive, positive]

/-- A quotient below one half is rounded to zero. -/
theorem roundQuotient_small {numerator denominator : Nat} (small : 2 * numerator < denominator)
    : roundQuotient numerator denominator = 0 := by
  have below : numerator < denominator := by omega
  simp [roundQuotient, Nat.mod_eq_of_lt below, Nat.div_eq_of_lt below, small]

namespace Double

/-- A common factor changes no rounded ratio. -/
theorem ofRatio_mul_right {factor : Nat} (positive : 0 < factor) (negative : Bool)
    (numerator denominator : Nat)
    : ofRatio negative (numerator * factor) (denominator * factor)
      = ofRatio negative numerator denominator := by
  have scaled : numerator * factor * 2 ^ unitPlaces = numerator * 2 ^ unitPlaces * factor := by
    rw [Nat.mul_right_comm]
  have denominators (scale : Nat)
      : denominator * factor * 2 ^ scale = denominator * 2 ^ scale * factor := by
    rw [Nat.mul_right_comm]
  simp only [ofRatio, scaled, denominators, Nat.mul_div_mul_right _ _ positive,
    roundQuotient_mul_right positive]

/-- Equal ratios are rounded to the same number, by extending both to a common denominator. -/
theorem ofRatio_congr {numerator denominator numerator' denominator' : Nat} (negative : Bool)
    (positive : 0 < denominator) (positive' : 0 < denominator')
    (same : numerator * denominator' = numerator' * denominator)
    : ofRatio negative numerator denominator = ofRatio negative numerator' denominator' := by
  rw [← ofRatio_mul_right positive', same, Nat.mul_comm denominator,
    ofRatio_mul_right positive]

-----------------------------------------------------------------------------------------
-- Ratios beyond the range of numbers
-----------------------------------------------------------------------------------------

/-- No mantissa makes up for a scale above the greatest. -/
theorem ofParts_of_large {scale : Nat} (negative : Bool) (mantissa : Nat) (large : 2045 < scale)
    : ofParts negative mantissa scale = .infinite negative := by
  have beyond (mantissa scale' : Nat) (le : scale ≤ scale') : isStored mantissa scale' = false := by
    simp [isStored, show ¬ scale' ≤ 2045 by omega]
  have scales : scale ≤ if mantissa = 2 ^ 53 then scale + 1 else scale := by
    split <;> omega
  rw [ofParts, dif_neg]
  rw [beyond _ _ scales]
  exact Bool.false_ne_true

/-- What is at least a power of two above the greatest number is infinite. -/
theorem ofRatio_of_large {numerator places : Nat} (negative : Bool) (many : 1024 ≤ places)
    (large : 2 ^ places ≤ numerator)
    : ofRatio negative numerator 1 = .infinite negative := by
  have least : 2 ^ (places + unitPlaces) ≤ numerator * 2 ^ unitPlaces := by
    rw [Nat.pow_add]
    exact Nat.mul_le_mul_right _ large
  have nonzero : numerator * 2 ^ unitPlaces ≠ 0 :=
    Nat.ne_of_gt (Nat.lt_of_lt_of_le (Nat.two_pow_pos _) least)
  have scale : places + unitPlaces ≤ Nat.log2 (numerator * 2 ^ unitPlaces) :=
    (Nat.le_log2 nonzero).mpr least
  have unit : unitPlaces = 1074 := rfl
  simp only [ofRatio, Nat.div_one]
  exact ofParts_of_large _ _ (by omega)

/-- What is below half a unit is zero. -/
theorem ofRatio_of_small {numerator denominator : Nat} (negative : Bool)
    (small : 2 * (numerator * 2 ^ unitPlaces) < denominator)
    : ofRatio negative numerator denominator
      = .finite { FiniteDouble.zero with negative } := by
  have below : numerator * 2 ^ unitPlaces < denominator := by omega
  simp only [ofRatio, Nat.div_eq_of_lt below, Nat.log2_zero, Nat.zero_sub, Nat.pow_zero, Nat.mul_one,
    roundQuotient_small small]
  rfl

-----------------------------------------------------------------------------------------
-- Decimals
-----------------------------------------------------------------------------------------

/-- A power of ten is at least the power of two with three times the exponent. -/
theorem two_pow_le_ten_pow (n : Nat) : 2 ^ (3 * n) ≤ 10 ^ n := by
  rw [Nat.pow_mul]
  exact Nat.pow_le_pow_left (by decide) n

/-- A decimal that is not zero is rounded as the ratio that it is. Witness: beyond the bounds on the
exponent the ratio is infinite, or below half a unit.
-/
theorem ofDecimal_eq_ofRatio {digits : Nat} (nonzero : digits ≠ 0) (negative : Bool)
    (exponent : Int)
    : ofDecimal negative digits exponent
      = ofRatio negative (digits * 10 ^ exponent.toNat) (10 ^ (-exponent).toNat) := by
  unfold ofDecimal
  rw [if_neg nonzero]
  by_cases large : 400 < exponent
  · have whole : (-exponent).toNat = 0 := by omega
    have many : 1024 ≤ 3 * exponent.toNat := by omega
    rw [if_pos large, whole, Nat.pow_zero, ofRatio_of_large negative many]
    calc 2 ^ (3 * exponent.toNat) ≤ 10 ^ exponent.toNat := two_pow_le_ten_pow _
      _ ≤ digits * 10 ^ exponent.toNat := Nat.le_mul_of_pos_left _ (by omega)
  · rw [if_neg large]
    by_cases small : exponent + (Nat.log2 digits : Int) < -400
    · have whole : exponent.toNat = 0 := by omega
      rw [if_pos small, whole, Nat.pow_zero, Nat.mul_one, ofRatio_of_small]
      have bound : 2 * (digits * 2 ^ unitPlaces) < 2 ^ (Nat.log2 digits + 1 + unitPlaces + 1) := by
        rw [Nat.pow_succ, Nat.pow_add, Nat.mul_comm 2]
        exact Nat.mul_lt_mul_of_pos_right
          (Nat.mul_lt_mul_of_pos_right Nat.lt_log2_self (Nat.two_pow_pos _)) (by decide)
      calc 2 * (digits * 2 ^ unitPlaces) < 2 ^ (Nat.log2 digits + 1 + unitPlaces + 1) := bound
        _ ≤ 2 ^ (3 * (-exponent).toNat) :=
            Nat.pow_le_pow_right (by decide) (by simp only [unitPlaces]; omega)
        _ ≤ 10 ^ (-exponent).toNat := two_pow_le_ten_pow _
    · rw [if_neg small]
      by_cases whole : 0 ≤ exponent
      · have none : (-exponent).toNat = 0 := by omega
        rw [if_pos whole, none, Nat.pow_zero]
      · have none : exponent.toNat = 0 := by omega
        rw [if_neg whole, none, Nat.pow_zero, Nat.mul_one]

/-- Zeros moved from the exponent to the digits change nothing. -/
theorem ofDecimal_shift (negative : Bool) (digits places : Nat) (exponent : Int)
    : ofDecimal negative (digits * 10 ^ places) (exponent - places)
      = ofDecimal negative digits exponent := by
  by_cases zero : digits = 0
  · simp [ofDecimal, zero]
  · have nonzero : digits * 10 ^ places ≠ 0 :=
      Nat.mul_ne_zero zero (Nat.ne_of_gt (Nat.pow_pos (by decide)))
    rw [ofDecimal_eq_ofRatio nonzero, ofDecimal_eq_ofRatio zero]
    refine ofRatio_congr _ (Nat.pow_pos (by decide)) (Nat.pow_pos (by decide)) ?_
    simp only [Nat.mul_assoc, ← Nat.pow_add]
    congr 2
    omega

end Double

-----------------------------------------------------------------------------------------
-- Exact and shortest decimals
-----------------------------------------------------------------------------------------

namespace Decimal

/-- Dropping zeros moves them to the exponent, by induction on the number of steps. -/
theorem ofDecimal_dropZeros (negative : Bool) (fuel : Nat) (d : Decimal)
    : Double.ofDecimal negative (dropZeros fuel d).digits (dropZeros fuel d).exponent
      = Double.ofDecimal negative d.digits d.exponent := by
  induction fuel generalizing d with
  | zero => rfl
  | succ fuel ih =>
      rw [dropZeros]
      split
      · next zero =>
          have whole : d.digits / 10 * 10 = d.digits := by
            simp only [Bool.and_eq_true, beq_iff_eq] at zero
            omega
          rw [ih, ← Double.ofDecimal_shift negative (d.digits / 10) 1 (d.exponent + 1), Nat.pow_one,
            whole]
          congr 1
          omega
      · rfl

/-- A decimal without trailing zeros reads as the same number. -/
theorem ofDecimal_reduced (negative : Bool) (d : Decimal)
    : Double.ofDecimal negative d.reduced.digits d.reduced.exponent
      = Double.ofDecimal negative d.digits d.exponent :=
  ofDecimal_dropZeros negative _ d

end Decimal

namespace FiniteDouble

/-- A number of units is rounded to the number that has them: its scale is read off its size. -/
theorem ofRatio_units (x : FiniteDouble)
    : Double.ofRatio x.negative x.units (2 ^ unitPlaces) = .finite x := by
  have positive := Nat.two_pow_pos unitPlaces
  have stored := x.stored
  simp only [isStored, Bool.and_eq_true, Bool.or_eq_true, decide_eq_true_eq] at stored
  obtain ⟨⟨narrow, _⟩, normal⟩ := stored
  have scale : Nat.log2 x.units - 52 = x.scale := by
    rcases normal with none | normal
    · rw [units, none, Nat.pow_zero, Nat.mul_one]
      by_cases zero : x.mantissa = 0
      · simp [zero]
      · have := (Nat.log2_lt zero).mpr narrow
        omega
    · have nonzero : x.units ≠ 0 := by
        simp only [units, ne_eq, Nat.mul_eq_zero, not_or]
        exact ⟨by omega, Nat.pos_iff_ne_zero.mp (Nat.two_pow_pos _)⟩
      have low : 52 + x.scale ≤ Nat.log2 x.units := by
        rw [Nat.le_log2 nonzero, Nat.pow_add]
        exact Nat.mul_le_mul_right _ normal
      have high : Nat.log2 x.units < 53 + x.scale := by
        rw [Nat.log2_lt nonzero, Nat.pow_add]
        exact Nat.mul_lt_mul_of_pos_right narrow (Nat.two_pow_pos _)
      omega
  have mantissa
      : roundQuotient (x.units * 2 ^ unitPlaces) (2 ^ unitPlaces * 2 ^ x.scale) = x.mantissa := by
    rw [units, Nat.mul_assoc, Nat.mul_comm (2 ^ x.scale)]
    exact roundQuotient_mul_self (Nat.mul_pos positive (Nat.two_pow_pos _)) _
  have uncarried : x.mantissa ≠ 2 ^ 53 := by omega
  simp only [Double.ofRatio, Nat.mul_div_cancel _ positive, scale, mantissa, Double.ofParts, uncarried,
    if_false, x.stored, dite_true]

/-- The exact decimal of a number reads as the number: a unit is a ratio of powers of ten and five.
-/
theorem isReadFrom_exact {x : FiniteDouble} (nonzero : x.mantissa ≠ 0)
    : x.isReadFrom x.exact = true := by
  have digits : x.units * 5 ^ unitPlaces ≠ 0 :=
    Nat.mul_ne_zero (Nat.mul_ne_zero nonzero (Nat.ne_of_gt (Nat.two_pow_pos _)))
      (Nat.ne_of_gt (Nat.pow_pos (by decide)))
  have tens : 10 ^ unitPlaces = 2 ^ unitPlaces * 5 ^ unitPlaces := by
    rw [← Nat.mul_pow]
  have places : (-(-(unitPlaces : Int))).toNat = unitPlaces := by omega
  have whole : (-(unitPlaces : Int)).toNat = 0 := by omega
  rw [isReadFrom, exact, beq_iff_eq, Double.ofDecimal_eq_ofRatio digits, places, whole, Nat.pow_zero,
    Nat.mul_one, tens, Double.ofRatio_mul_right (Nat.pow_pos (by decide)), ofRatio_units]

/-- The shortest decimal of a number reads as the number: it is one that does, or the exact one. -/
theorem isReadFrom_shortest (x : FiniteDouble) : x.isReadFrom x.shortest = true := by
  rw [shortest]
  split
  · next zero =>
      have scale : x.scale = 0 := by
        have stored := x.stored
        simp only [isStored, zero, Bool.and_eq_true, Bool.or_eq_true, decide_eq_true_eq] at stored
        omega
      rcases x with ⟨negative, mantissa, scale', stored⟩
      simp only at zero scale
      subst zero scale
      simp [isReadFrom, Double.ofDecimal, zero]
  · next nonzero =>
      split
      · next d found => exact List.find?_some found
      · exact isReadFrom_exact nonzero

end FiniteDouble

end Recommender
