import Mathlib.Algebra.Order.Field.Rat
import Mathlib.Data.Rat.Cast.Order
import Reconcile.Number.Basic
import Reconcile.Proofs.Number.Rounding

/-!
# The value of a number

`Number.value` is the rational number that an integer or a double stands for. Two numbers of one kind
with one value are the same number, the two zeros apart (`Double.eq_of_toUnits_eq`), and a double with
an integral value tells which integer it is (`Double.toInt?_eq_some_iff`).
-/
namespace Reconcile

namespace Double

/-- The value in units determines a double, but for the sign of zero. -/
theorem eq_of_toUnits_eq {a b : Double} (equal : a.toUnits = b.toUnits) (nonzero : a.toUnits ≠ 0) :
    a = b := by
  have parts : a.negative = b.negative ∧ a.units = b.units := by
    unfold toUnits at equal nonzero
    cases left : a.negative with
    | false =>
      cases right : b.negative with
      | false =>
        simp only [left, right, Bool.false_eq_true, if_false] at equal
        exact ⟨rfl, by omega⟩
      | true =>
        simp only [left, right, Bool.false_eq_true, if_false, if_true] at equal nonzero
        omega
    | true =>
      cases right : b.negative with
      | false =>
        simp only [left, right, Bool.false_eq_true, if_false, if_true] at equal nonzero
        omega
      | true =>
        simp only [left, right, if_true] at equal
        exact ⟨rfl, by omega⟩
  have rounded := ofUnits?_units a
  rw [parts.1, parts.2, ofUnits?_units b] at rounded
  exact (Option.some.inj rounded).symm

/-- The integer is found exactly where the value is one. -/
theorem toInt?_eq_some_iff {d : Double} {whole : Int} :
    d.toInt? = some whole ↔ d.toUnits = whole * unitsPerOne := by
  have positive := unitsPerOne_pos
  unfold toInt? toUnits
  generalize unitsPerOne = one, d.units = units at *
  constructor
  · intro found
    split at found
    · next integral =>
      have scaled : (units : Int) = (units / one : Nat) * one := by
        exact_mod_cast (Nat.div_mul_cancel (Nat.dvd_of_mod_eq_zero integral)).symm
      cases found
      cases d.negative with
      | true => rw [if_pos rfl, if_pos rfl, Int.neg_mul, ← scaled]
      | false => rw [if_neg (by decide), if_neg (by decide), ← scaled]
    · cases found
  · intro value
    have size : units = whole.natAbs * one := by
      have sizes := congrArg Int.natAbs value
      rw [Int.natAbs_mul, Int.natAbs_natCast] at sizes
      split at sizes
      · simpa using sizes
      · simpa using sizes
    rw [size, Nat.mul_mod_left, if_pos rfl, Nat.mul_div_cancel _ positive]
    refine congrArg some (Int.eq_of_mul_eq_mul_right (a := (one : Int)) (by omega) ?_)
    rw [← value, size, Int.natCast_mul]
    split
    · rw [Int.neg_mul]
    · rfl

end Double

namespace Number

/-- The rational number that a number stands for. -/
def value : Number → ℚ
  | .int value _ => value
  | .double value => value.toUnits / Double.unitsPerOne

def isDouble : Number → Bool
  | .int _ _ => false
  | .double _ => true

@[simp] theorem value_int (whole : Int) (fits : -2 ^ 63 ≤ whole ∧ whole < 2 ^ 64) :
    (int whole fits).value = whole := rfl

@[simp] theorem isDouble_int (whole : Int) (fits : -2 ^ 63 ≤ whole ∧ whole < 2 ^ 64) :
    (int whole fits).isDouble = false := rfl

@[simp] theorem isDouble_double (d : Double) : (double d).isDouble = true := rfl

theorem value_double_eq_iff {d : Double} {whole : Int} :
    (double d).value = whole ↔ d.toInt? = some whole := by
  have nonzero : (Double.unitsPerOne : ℚ) ≠ 0 := by exact_mod_cast Double.unitsPerOne_pos.ne'
  rw [value, div_eq_iff nonzero, Double.toInt?_eq_some_iff]
  exact_mod_cast Iff.rfl

theorem value_double_inj {a b : Double} :
    (double a).value = (double b).value ↔ a.toUnits = b.toUnits := by
  have nonzero : (Double.unitsPerOne : ℚ) ≠ 0 := by exact_mod_cast Double.unitsPerOne_pos.ne'
  rw [value, value, div_left_inj' nonzero]
  exact_mod_cast Iff.rfl

end Number

end Reconcile
