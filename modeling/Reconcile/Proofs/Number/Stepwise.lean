import Mathlib.Tactic.Ring
import Reconcile.Number.Rounding
import Reconcile.Proofs.Number.Rounding

/-!
# Short numerals are rounded once

Rounding by steps goes astray only where more than one step rounds. A significand below `2 ^ 53` is a
double as it is (`Double.exists_units`), and so is a power of ten up to `10 ^ 22`, whose odd part is
below `2 ^ 53` too. For these the one step that rounds is the multiplication or the division, and
the answer is the nearest double (`Rounding.stepwise_eq_nearest`).
-/
namespace Reconcile

namespace Double

/-- A product of a number below `2 ^ 53` and a power of two is a double, unless it is too large. The
induction is on the power: a number of fewer bits takes a factor from it. -/
theorem exists_units (negative : Bool) {m k : Nat} (small : m < 2 ^ 53) (bounded : k ≤ 2045) :
    ∃ d : Double, d.negative = negative ∧ d.units = m * 2 ^ k := by
  induction k generalizing m with
  | zero => exact ⟨⟨negative, m, 0, small, .inl rfl, bounded⟩, rfl, rfl⟩
  | succ k ih =>
    by_cases full : 2 ^ 52 ≤ m
    · exact ⟨⟨negative, m, k + 1, small, .inr full, bounded⟩, rfl, rfl⟩
    · have doubled : m * 2 < 2 ^ 53 := by omega
      obtain ⟨d, sign, units⟩ := ih doubled (by omega)
      refine ⟨d, sign, ?_⟩
      rw [units, Nat.pow_succ', Nat.mul_assoc]

/-- A small significand is taken as it is. -/
theorem ofUnits?_small (negative : Bool) {m : Nat} (small : m < 2 ^ 53) :
    ∃ d, ofUnits? negative (m * unitsPerOne) 1 = some d ∧ d.negative = negative ∧
      d.units = m * unitsPerOne := by
  obtain ⟨d, sign, units⟩ := exists_units negative small (by decide : 1074 ≤ 2045)
  rw [← unitsPerOne] at units
  refine ⟨d, ?_, sign, units⟩
  rw [← units, ← sign]
  exact ofUnits?_units d

/-- The powers of ten up to `10 ^ 22` are doubles. -/
theorem tenPow?_small {power : Nat} (small : power ≤ 22) :
    ∃ ten, tenPow? power = some ten ∧ ten.units = 10 ^ power * unitsPerOne := by
  have odd : 5 ^ power < 2 ^ 53 :=
    Nat.lt_of_le_of_lt (Nat.pow_le_pow_right (by decide) small) (by decide)
  obtain ⟨ten, sign, units⟩ := exists_units false odd (show power + 1074 ≤ 2045 by omega)
  rw [Nat.pow_add, ← Nat.mul_assoc, ← Nat.mul_pow, ← unitsPerOne] at units
  refine ⟨ten, ?_, units⟩
  have numerator : (Decimal.mk false 1 power).numerator = ten.units := by
    rw [units, Decimal.numerator, Int.toNat_natCast, Nat.one_mul]
  have denominator : (Decimal.mk false 1 power).denominator = 1 := by
    rw [Decimal.denominator, show (-(power : Int)).toNat = 0 by omega, Nat.pow_zero]
  rw [tenPow?, Decimal.toDouble?_eq_ofUnits?, numerator, denominator, ← ofUnits?_units ten, sign]

/-- With a small significand and a small power of ten there is one step that rounds. -/
theorem stepwise?_eq_toDouble? (negative : Bool) {significand : Nat} {exponent : Int}
    (small : significand < 2 ^ 53) (near : exponent.natAbs ≤ 22) :
    stepwise? negative significand exponent =
      (Decimal.mk negative significand exponent).toDouble? := by
  obtain ⟨d, taken, sign, units⟩ := ofUnits?_small negative small
  rw [Decimal.toDouble?_eq_ofUnits?, stepwise?, taken]
  dsimp only [Option.bind_eq_bind, Option.bind_some]
  rw [if_neg (by omega)]
  by_cases positive : 0 ≤ exponent
  · obtain ⟨ten, power, tens⟩ := tenPow?_small (show exponent.toNat ≤ 22 by omega)
    rw [if_pos positive, timesTenPow?, power, Option.bind_eq_bind, Option.bind_some, sign, units,
      tens]
    refine ofUnits?_congr negative unitsPerOne_pos (Decimal.denominator_pos _) ?_
    rw [Decimal.numerator, Decimal.denominator, show (-exponent).toNat = 0 by omega, Nat.pow_zero]
    ring
  · obtain ⟨ten, power, tens⟩ := tenPow?_small (show (-exponent).toNat ≤ 22 by omega)
    rw [if_neg positive, if_pos (by omega), overTenPow?, power, Option.bind_eq_bind,
      Option.bind_some, sign, units, tens]
    have divisor : 0 < 10 ^ (-exponent).toNat * unitsPerOne :=
      Nat.mul_pos (Nat.pow_pos (by decide)) unitsPerOne_pos
    refine ofUnits?_congr negative divisor (Decimal.denominator_pos _) ?_
    rw [Decimal.numerator, Decimal.denominator, show exponent.toNat = 0 by omega, Nat.pow_zero]
    ring

end Double

theorem Decimal.valueOfDigits_lt {run : List Char} (digits : ∀ c ∈ run, c.isDigit = true) :
    valueOfDigits run < 10 ^ run.length := by
  unfold valueOfDigits
  induction run with
  | nil => decide
  | cons c run ih =>
    have rest := ih fun c member => digits c (List.mem_cons_of_mem _ member)
    have digit : c.toNat - '0'.toNat ≤ 9 := by
      have bounds := digits c List.mem_cons_self
      simp only [Char.isDigit, ge_iff_le, Bool.and_eq_true, decide_eq_true_eq] at bounds
      exact Nat.sub_le_sub_right (UInt32.le_iff_toNat_le.mp bounds.2) 48
    have front := Nat.mul_le_mul_left (10 ^ run.length) digit
    rw [Nat.ofDigitChars_cons, Nat.mul_zero, Nat.zero_add, Nat.ofDigitChars_eq_ofDigitChars_zero,
      List.length_cons, Nat.pow_succ]
    omega

namespace Rounding

/-- Digits whose value fits are all taken. -/
theorem takeDigits_eq {run : List Char} {significand : Nat}
    (fits : Nat.ofDigitChars 10 run significand < 2 ^ 64) :
    takeDigits significand run = (Nat.ofDigitChars 10 run significand, []) := by
  induction run generalizing significand with
  | nil => rfl
  | cons c run ih =>
    rw [Nat.ofDigitChars_cons] at fits ⊢
    have longer : 10 * significand + (c.toNat - '0'.toNat) < 2 ^ 64 := by
      rw [Nat.ofDigitChars_eq_ofDigitChars_zero] at fits
      have := Nat.le_mul_of_pos_left (10 * significand + (c.toNat - '0'.toNat))
        (Nat.pow_pos (by decide : 0 < 10) : 0 < 10 ^ run.length)
      omega
    rw [takeDigits, if_pos longer]
    exact ih fits

/-- A numeral whose digits stand for less than `2 ^ 53`, and with them for a number of units between
`10 ^ -22` and `10 ^ 22`, is read as the nearest double. -/
theorem stepwise_eq_nearest (negative : Bool) {whole fraction : List Char} {exponent : Int}
    (small : Decimal.valueOfDigits (whole ++ fraction) < 2 ^ 53)
    (near : (exponent - fraction.length).natAbs ≤ 22) :
    stepwise negative whole fraction exponent = nearest negative whole fraction exponent := by
  have digits : Nat.ofDigitChars 10 fraction (Nat.ofDigitChars 10 whole 0) =
      Decimal.valueOfDigits (whole ++ fraction) := (Nat.ofDigitChars_append 0).symm
  have all : Nat.ofDigitChars 10 fraction (Nat.ofDigitChars 10 whole 0) < 2 ^ 64 := by omega
  have front : Nat.ofDigitChars 10 whole 0 < 2 ^ 64 := by
    rw [Nat.ofDigitChars_eq_ofDigitChars_zero] at all
    have := Nat.le_mul_of_pos_left (Nat.ofDigitChars 10 whole 0)
      (Nat.pow_pos (by decide : 0 < 10) : 0 < 10 ^ fraction.length)
    omega
  rw [stepwise, takeDigits_eq front]
  dsimp only
  rw [takeDigits_eq all, digits]
  simp only [List.length_nil, Nat.sub_zero, Int.natCast_zero, Int.add_zero]
  rw [Double.stepwise?_eq_toDouble? negative small near]
  rfl

end Rounding

end Reconcile
