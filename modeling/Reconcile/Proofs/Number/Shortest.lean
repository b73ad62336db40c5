import Mathlib.Data.List.TakeWhile
import Reconcile.Number.Shortest
import Reconcile.Proofs.Number.Rounding

/-!
# The shortest digits read back

`Double.shortest` answers with digits that denote the number they were made from
(`Double.shortest_spells`). The search takes a numeral only after reading it, so what is left to show is
that the expansion it falls back on is exact, and that dropping the zeros at the end moves them into
the exponent.
-/
namespace Reconcile

/-- The first digit of a positive number is not zero. -/
theorem head_toDigits_ne_zero {n : Nat} (positive : 0 < n) :
    ∃ first rest, Nat.toDigits 10 n = first :: rest ∧ first ≠ '0' := by
  induction n using Nat.strongRecOn with
  | ind n ih =>
    rw [Nat.toDigits_eq_if (by decide)]
    split
    case isTrue small =>
      refine ⟨n.digitChar, [], rfl, ?_⟩
      rw [ne_eq, Nat.digitChar_eq_zero]
      omega
    case isFalse large =>
      obtain ⟨first, rest, digits, nonzero⟩ := ih (n / 10) (by omega) (by omega)
      refine ⟨first, rest ++ [(n % 10).digitChar], ?_, nonzero⟩
      rw [digits, List.cons_append]

/-- Trailing zeros are dropped from the run and counted into the exponent. -/
theorem trimZeros_spec (run : List Char) (exponent : Int) :
    ∃ zeros : Nat, run = (trimZeros run exponent).1 ++ List.replicate zeros '0' ∧
      (trimZeros run exponent).2 = exponent + zeros := by
  let dropped := run.reverse.takeWhile (· = '0')
  have zeros : dropped = List.replicate dropped.length '0' := by
    refine List.eq_replicate_iff.mpr ⟨rfl, fun c member => ?_⟩
    have zero : decide (c = '0') = true := by
      unfold dropped at member
      exact List.mem_takeWhile_imp (p := fun c => decide (c = '0')) member
    exact of_decide_eq_true zero
  have split : run = (run.reverse.dropWhile (· = '0')).reverse ++ dropped.reverse := by
    rw [← List.reverse_append, List.takeWhile_append_dropWhile, List.reverse_reverse]
  refine ⟨dropped.length, ?_, ?_⟩
  · rw [zeros, List.reverse_replicate] at split
    exact split
  · have lengths := congrArg List.length split
    simp only [List.length_append, List.length_reverse] at lengths
    unfold trimZeros
    dsimp only
    rw [List.length_reverse]
    omega

/-- The digits of a number that is not zero. -/
structure Significant (run : List Char) : Prop where
  digits : ∀ c ∈ run, c.isDigit = true
  first : ∃ first rest, run = first :: rest ∧ first ≠ '0'

/-- The digits `run`, the last of them counting `10 ^ exponent`, spell the magnitude of `d`. -/
structure Spells (d : Double) (run : List Char) (exponent : Int) : Prop extends Significant run where
  value : (Decimal.mk d.negative (Decimal.valueOfDigits run) exponent).toDouble? = some d

namespace Double

theorem expansion_readsBack (d : Double) :
    (Decimal.mk d.negative d.expansion (-1074)).toDouble? = some d := by
  rw [Decimal.toDouble?_eq_ofUnits?, ← ofUnits?_units d]
  refine ofUnits?_congr d.negative (Decimal.denominator_pos _) (by decide) ?_
  have tens (k : Nat) : 5 ^ k * 2 ^ k = 10 ^ k := (Nat.mul_pow 5 2 k).symm
  unfold Decimal.numerator Decimal.denominator expansion unitsPerOne
  dsimp only
  rw [show (-1074 : Int).toNat = 0 from rfl, show (- -1074 : Int).toNat = 1074 from rfl,
    Nat.pow_zero, Nat.mul_one, Nat.mul_one, Nat.mul_assoc, tens 1074]

theorem onGrid?_readsBack {d : Double} {dropped digits : Nat} {exponent : Int}
    (found : d.onGrid? dropped = some (digits, exponent)) :
    (Decimal.mk d.negative digits exponent).toDouble? = some d := by
  unfold onGrid? at found
  dsimp only at found
  split at found
  case isTrue low =>
    cases found
    simp only [Bool.and_eq_true] at low
    exact beq_iff_eq.mp low.1
  case isFalse =>
    split at found
    case isTrue high =>
      cases found
      exact beq_iff_eq.mp high
    case isFalse => cases found

theorem searchGrids_readsBack {d : Double} {size remaining digits : Nat} {exponent : Int}
    (found : d.searchGrids size remaining = (digits, exponent)) :
    (Decimal.mk d.negative digits exponent).toDouble? = some d := by
  induction remaining with
  | zero =>
    unfold searchGrids at found
    rw [← (Prod.mk.inj found).1, ← (Prod.mk.inj found).2]
    exact d.expansion_readsBack
  | succ remaining ih =>
    unfold searchGrids at found
    cases taken : d.onGrid? (size - (17 - remaining)) with
    | none =>
      rw [taken] at found
      exact ih found
    | some numeral =>
      rw [taken] at found
      cases found
      exact onGrid?_readsBack taken

/-- Only zero is spelled without a digit other than zero. -/
theorem isZero_of_no_digits {d : Double} {exponent : Int}
    (value : (Decimal.mk d.negative 0 exponent).toDouble? = some d) : d.isZero = true := by
  have zero : zero d.negative = d := Option.some.inj value
  rw [← zero]
  rfl

theorem shortest_spells {d : Double} (nonzero : d.isZero = false) :
    Spells d d.shortest.1 d.shortest.2 := by
  obtain ⟨⟨digits, exponent⟩, found⟩ : ∃ numeral,
    d.searchGrids (Nat.toDigits 10 d.expansion).length 17 = numeral := exists_eq'
  have shortest : d.shortest = trimZeros (Nat.toDigits 10 digits) exponent := by
    rw [shortest, found]
  have value := searchGrids_readsBack found
  have positive : 0 < digits := by
    refine Nat.pos_of_ne_zero fun zero => ?_
    rw [zero] at value
    rw [isZero_of_no_digits value] at nonzero
    cases nonzero
  obtain ⟨first, rest, written, leading⟩ := head_toDigits_ne_zero positive
  obtain ⟨zeros, run, point⟩ := trimZeros_spec (Nat.toDigits 10 digits) exponent
  rw [← shortest] at run point
  have total : digits = Decimal.valueOfDigits d.shortest.1 * 10 ^ zeros := by
    have := congrArg Decimal.valueOfDigits run
    rwa [Decimal.valueOfDigits_toDigits, Decimal.valueOfDigits_append, Decimal.valueOfDigits_zeros,
      List.length_replicate, Nat.add_zero] at this
  refine ⟨⟨?_, ?_⟩, ?_⟩
  · intro c member
    have among : c ∈ Nat.toDigits 10 digits := by
      rw [run]
      exact List.mem_append_left _ member
    exact Nat.isDigit_of_mem_toDigits (by decide) (Nat.le_refl 10) among
  · cases kept : d.shortest.1 with
    | nil =>
      rw [kept] at total
      simp [Decimal.valueOfDigits] at total
      omega
    | cons c tail =>
      rw [run, kept] at written
      cases written
      exact ⟨_, _, rfl, leading⟩
  · rw [← value, point, total, ← Decimal.toDouble?_shift d.negative _ zeros, Int.add_sub_cancel]

end Double

end Reconcile
