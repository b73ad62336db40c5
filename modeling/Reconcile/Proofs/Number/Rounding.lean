import Mathlib.Data.Nat.Log
import Reconcile.Number.Decimal

/-!
# Rounding is a function of the value

`Double.ofUnits?` rounds a ratio of natural numbers and `Decimal.toDouble?` a numeral; both answers
depend on the value alone, not on the numbers that spell it. A ratio may be extended by a common
factor (`ofUnits?_congr`), a numeral may take zeros from its exponent (`toDouble?_shift`), and the two
guards of `toDouble?` that keep its powers of ten small change no answer (`toDouble?_eq_ofUnits?`).
A value of the format rounds to itself (`ofUnits?_units`).
-/
namespace Reconcile

theorem divNearestEven_mul_right (numerator denominator : Nat) {factor : Nat}
    (positive : 0 < factor) :
    divNearestEven (numerator * factor) (denominator * factor) =
      divNearestEven numerator denominator := by
  unfold divNearestEven
  rw [Nat.mul_div_mul_right _ _ positive, Nat.mul_mod_mul_right, ← Nat.mul_assoc]
  simp only [Nat.mul_lt_mul_right positive]

/-- A ratio below one half rounds to zero. -/
theorem divNearestEven_of_lt {numerator denominator : Nat}
    (small : 2 * numerator < denominator) : divNearestEven numerator denominator = 0 := by
  have below : numerator < denominator := by omega
  unfold divNearestEven
  rw [Nat.div_eq_of_lt below, Nat.mod_eq_of_lt below, if_pos small]

theorem divNearestEven_one (numerator : Nat) : divNearestEven numerator 1 = numerator := by
  unfold divNearestEven
  rw [Nat.div_one, Nat.mod_one, if_pos (by decide)]

namespace Double

theorem unitsPerOne_pos : 0 < unitsPerOne := by
  unfold unitsPerOne
  apply Nat.two_pow_pos

theorem ofUnits?_mul_right (negative : Bool) (numerator denominator : Nat) {factor : Nat}
    (positive : 0 < factor) :
    ofUnits? negative (numerator * factor) (denominator * factor) =
      ofUnits? negative numerator denominator := by
  unfold ofUnits?
  dsimp only
  rw [Nat.mul_div_mul_right _ _ positive, Nat.mul_right_comm denominator factor,
    divNearestEven_mul_right _ _ positive]

/-- Ratios with equal cross products round alike. -/
theorem ofUnits?_congr (negative : Bool) {numerator denominator numerator' denominator' : Nat}
    (positive : 0 < denominator) (positive' : 0 < denominator')
    (cross : numerator * denominator' = numerator' * denominator) :
    ofUnits? negative numerator denominator = ofUnits? negative numerator' denominator' := by
  rw [← ofUnits?_mul_right negative numerator denominator positive',
    ← ofUnits?_mul_right negative numerator' denominator' positive, cross,
    Nat.mul_comm denominator denominator']

/-- Less than half a unit rounds to zero. -/
theorem ofUnits?_of_lt (negative : Bool) {numerator denominator : Nat}
    (small : 2 * numerator < denominator) :
    ofUnits? negative numerator denominator = some (zero negative) := by
  have quotient : numerator / denominator = 0 := Nat.div_eq_of_lt (by omega)
  have significand : divNearestEven numerator (denominator * 2 ^ 0) = 0 :=
    divNearestEven_of_lt (by omega)
  unfold ofUnits?
  dsimp only
  rw [quotient, Nat.log2_zero, Nat.zero_sub, significand]
  rfl

/-- `2 ^ 2098` units are past the largest value of the format. -/
theorem ofUnits?_of_le (negative : Bool) {numerator denominator bits : Nat} (past : 2098 ≤ bits)
    (large : 2 ^ bits ≤ numerator / denominator) :
    ofUnits? negative numerator denominator = none := by
  have nonzero : numerator / denominator ≠ 0 := by
    have := Nat.two_pow_pos bits
    omega
  have long : bits ≤ (numerator / denominator).log2 := (Nat.le_log2 nonzero).mpr large
  have outside : ∀ significand scale, 2045 < scale → ofParts? negative significand scale = none := by
    intro significand scale past
    unfold ofParts?
    rw [dif_neg (by omega)]
  unfold ofUnits?
  dsimp only
  split
  · exact outside _ _ (by omega)
  · exact outside _ _ (by omega)

theorem log2_units (d : Double) : d.units.log2 - 52 = d.scale := by
  have bound := d.significand_lt
  unfold units
  rcases d.normalized with subnormal | normal
  · rw [subnormal, Nat.pow_zero, Nat.mul_one]
    by_cases nonzero : d.significand = 0
    · rw [nonzero, Nat.log2_zero]
    · have := (Nat.log2_lt nonzero).mpr bound
      omega
  · have nonzero : d.significand ≠ 0 := by omega
    have bits : (d.significand * 2 ^ d.scale).log2 = 52 + d.scale := by
      refine (Nat.log2_eq_iff (Nat.mul_ne_zero nonzero (Nat.two_pow_pos _).ne')).mpr ⟨?_, ?_⟩
      · rw [Nat.pow_add]
        exact Nat.mul_le_mul_right _ normal
      · rw [Nat.add_right_comm, Nat.pow_add]
        exact Nat.mul_lt_mul_of_pos_right bound (Nat.two_pow_pos _)
    omega

/-- The significand and the scale of a magnitude are the ones that rounding finds. -/
theorem ofUnits?_units (d : Double) : ofUnits? d.negative d.units 1 = some d := by
  have significand : divNearestEven d.units (1 * 2 ^ d.scale) = d.significand := by
    unfold units
    rw [divNearestEven_mul_right _ _ (Nat.two_pow_pos _), divNearestEven_one]
  have bound := d.significand_lt
  unfold ofUnits?
  dsimp only
  rw [Nat.div_one, log2_units, significand, if_neg (by omega)]
  unfold ofParts?
  rw [dif_pos ⟨d.significand_lt, d.normalized, d.scale_le⟩]

end Double

namespace Decimal

/-- The magnitude of a numeral is the ratio of these two, in units. -/
def numerator (d : Decimal) : Nat := d.digits * 10 ^ d.exponent.toNat * Double.unitsPerOne

@[inherit_doc numerator]
def denominator (d : Decimal) : Nat := 10 ^ (-d.exponent).toNat

theorem denominator_pos (d : Decimal) : 0 < d.denominator := Nat.pow_pos (by decide)

theorem two_pow_le_ten_pow (k : Nat) : 2 ^ (3 * k) ≤ 10 ^ k := by
  rw [Nat.pow_mul]
  exact Nat.pow_le_pow_left (by decide) k

/-- Rounding a numeral is rounding its ratio: the guards only answer early. -/
theorem toDouble?_eq_ofUnits? (d : Decimal) :
    d.toDouble? = Double.ofUnits? d.negative d.numerator d.denominator := by
  unfold toDouble?
  split
  case isTrue noDigits =>
    have small : 2 * d.numerator < d.denominator := by
      rw [numerator, noDigits, Nat.zero_mul, Nat.zero_mul]
      exact d.denominator_pos
    rw [Double.ofUnits?_of_lt d.negative small]
  case isFalse digits =>
    split
    case isTrue past =>
      have one : d.denominator = 1 := by
        rw [denominator, show (-d.exponent).toNat = 0 by omega, Nat.pow_zero]
      have large : 2 ^ (3 * d.exponent.toNat + 1074) ≤ d.numerator / d.denominator := by
        rw [one, Nat.div_one, Nat.pow_add, numerator, Double.unitsPerOne]
        calc
          2 ^ (3 * d.exponent.toNat) * 2 ^ 1074 ≤ 10 ^ d.exponent.toNat * 2 ^ 1074 :=
            Nat.mul_le_mul_right _ (two_pow_le_ten_pow _)
          _ ≤ d.digits * 10 ^ d.exponent.toNat * 2 ^ 1074 :=
            Nat.mul_le_mul_right _ (Nat.le_mul_of_pos_left _ (Nat.pos_of_ne_zero digits))
      rw [Double.ofUnits?_of_le d.negative (by omega) large]
    case isFalse =>
      split
      case isTrue tiny =>
        have whole : d.numerator = d.digits * 2 ^ 1074 := by
          rw [numerator, show d.exponent.toNat = 0 by omega, Nat.pow_zero, Nat.mul_one,
            Double.unitsPerOne]
        have bits : 2 * d.digits ≤ 2 ^ (d.digits.log2 + 2) := by
          have : d.digits < 2 ^ (d.digits.log2 + 1) := Nat.lt_log2_self
          rw [Nat.pow_succ]
          omega
        have small : 2 * d.numerator < d.denominator := by
          calc
            2 * d.numerator = 2 * d.digits * 2 ^ 1074 := by rw [whole, ← Nat.mul_assoc]
            _ ≤ 2 ^ (d.digits.log2 + 2) * 2 ^ 1074 := Nat.mul_le_mul_right _ bits
            _ = 2 ^ (d.digits.log2 + 2 + 1074) := by
              rw [Nat.pow_add 2 (d.digits.log2 + 2) 1074]
            _ < 2 ^ (3 * (-d.exponent).toNat) := Nat.pow_lt_pow_right (by decide) (by omega)
            _ ≤ d.denominator := two_pow_le_ten_pow _
        rw [Double.ofUnits?_of_lt d.negative small]
      case isFalse => rfl

/-- Zeros at the end of the digits may stand in the exponent instead. -/
theorem toDouble?_shift (negative : Bool) (digits zeros : Nat) (exponent : Int) :
    (Decimal.mk negative (digits * 10 ^ zeros) (exponent - zeros)).toDouble? =
      (Decimal.mk negative digits exponent).toDouble? := by
  rw [toDouble?_eq_ofUnits?, toDouble?_eq_ofUnits?]
  refine Double.ofUnits?_congr negative (denominator_pos _) (denominator_pos _) ?_
  have powers : zeros + (exponent - zeros).toNat + (-exponent).toNat =
      exponent.toNat + (-(exponent - zeros)).toNat := by omega
  have tens : 10 ^ zeros * 10 ^ (exponent - zeros).toNat * 10 ^ (-exponent).toNat =
      10 ^ exponent.toNat * 10 ^ (-(exponent - zeros)).toNat := by
    rw [← Nat.pow_add, ← Nat.pow_add, ← Nat.pow_add, powers]
  unfold numerator denominator
  dsimp only
  calc
    digits * 10 ^ zeros * 10 ^ (exponent - zeros).toNat * Double.unitsPerOne * 10 ^ (-exponent).toNat
        = digits * (10 ^ zeros * 10 ^ (exponent - zeros).toNat * 10 ^ (-exponent).toNat) *
            Double.unitsPerOne := by
      rw [Nat.mul_right_comm _ Double.unitsPerOne, Nat.mul_assoc digits, Nat.mul_assoc digits]
    _ = digits * 10 ^ exponent.toNat * Double.unitsPerOne * 10 ^ (-(exponent - zeros)).toNat := by
      rw [tens, ← Nat.mul_assoc, Nat.mul_right_comm _ Double.unitsPerOne]

end Decimal

end Reconcile
