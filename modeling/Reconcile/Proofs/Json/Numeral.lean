import Reconcile.Json.Reader
import Reconcile.Proofs.Number.Shortest

/-!
# What is read of a written number

The reader takes a numeral apart into the digits before the point, those after it and the exponent;
`readNumber_whole` and `readNumber_fraction` are its equations for a text already in these parts. Each
layout of a double is brought into them, with parts whose value rounds to the double (`NumeralOf`).
So an integer reads back however doubles are rounded (`readNumber_int`), and rounding to the nearest
reads back every number (`readNumber_write`).
-/
namespace Reconcile.Json

open Decimal Layout

/-- The text does not continue a numeral that stands in front of it. -/
def EndsNumeral (rest : List Char) : Prop :=
  ∀ c ∈ rest.head?, c.isDigit = false ∧ c ≠ '.' ∧ c ≠ 'e' ∧ c ≠ 'E'

/-- A run of digits that may stand before the point: not empty, without a leading zero. -/
structure Whole (run : List Char) : Prop where
  digits : ∀ c ∈ run, c.isDigit = true
  nonempty : run ≠ []
  canonical : 1 < run.length → run.head? ≠ some '0'

def signed (negative : Bool) (text : List Char) : List Char :=
  if negative then '-' :: text else text

theorem Whole.of_first {run rest : List Char} {first : Char}
    (digits : ∀ c ∈ run, c.isDigit = true) (shape : run = first :: rest) (nonzero : first ≠ '0') :
    Whole run := by
  refine ⟨digits, ?_, fun _ => ?_⟩
  · rw [shape]
    exact List.cons_ne_nil _ _
  · rw [shape, List.head?_cons]
    exact fun equal => nonzero (Option.some.inj equal)

theorem isDigit_of_mem_zeros {count : Nat} {c : Char} (member : c ∈ List.replicate count '0') :
    c.isDigit = true := by
  rw [List.eq_of_mem_replicate member]
  rfl

theorem isDigit_of_mem_zero : ∀ c ∈ ['0'], c.isDigit = true :=
  fun _ member => isDigit_of_mem_zeros (show _ ∈ List.replicate 1 '0' from member)

theorem whole_zero : Whole ['0'] := ⟨isDigit_of_mem_zero, by decide, by decide⟩

theorem whole_toDigits (n : Nat) : Whole (Nat.toDigits 10 n) := by
  rcases Nat.eq_zero_or_pos n with rfl | positive
  · rw [Nat.toDigits_zero]
    exact whole_zero
  · obtain ⟨first, rest, shape, nonzero⟩ := head_toDigits_ne_zero positive
    refine Whole.of_first (fun c member => ?_) shape nonzero
    exact Nat.isDigit_of_mem_toDigits (by decide) (Nat.le_refl 10) member

theorem Whole.head_ne {run : List Char} (whole : Whole run) {mark : Char}
    (nondigit : mark.isDigit = false) (rest tail : List Char) : run ++ rest ≠ mark :: tail := by
  intro equal
  cases run with
  | nil => exact whole.nonempty rfl
  | cons c run =>
    injection equal with head
    have digit := whole.digits c List.mem_cons_self
    rw [head, nondigit] at digit
    cases digit

theorem Whole.accepted {run : List Char} (whole : Whole run) :
    (run.isEmpty || (decide (run.length > 1) && run.head? == some '0')) = false := by
  cases run with
  | nil => exact absurd rfl whole.nonempty
  | cons c run =>
    have canonical := whole.canonical
    simp only [List.isEmpty_cons, Bool.false_or, Bool.and_eq_false_iff, decide_eq_false_iff_not,
      beq_eq_false_iff_ne]
    by_cases long : (c :: run).length > 1
    · exact .inr (canonical long)
    · exact .inl long

theorem splitSign_signed (negative : Bool) {run : List Char} (whole : Whole run)
    (rest : List Char) : splitSign (signed negative (run ++ rest)) = (negative, run ++ rest) := by
  cases negative with
  | true => rfl
  | false =>
    unfold signed splitSign
    rw [if_neg (by decide)]
    split
    case h_1 equal => exact absurd equal (whole.head_ne (by decide) rest _)
    case h_2 => rfl

/-- A numeral with digits after the point. -/
theorem readNumber_fraction (rounding : Rounding) (negative : Bool)
    {whole fraction rest after : List Char} {exponent : Option Int} (isWhole : Whole whole)
    (digits : ∀ c ∈ fraction, c.isDigit = true) (nonempty : fraction ≠ [])
    (stop : ∀ c ∈ rest.head?, c.isDigit = false)
    (scanned : spanExponent? rest = some (exponent, after)) :
    readNumber rounding (signed negative (whole ++ '.' :: (fraction ++ rest))) =
      (rounding negative whole fraction (exponent.getD 0)).map fun value =>
        (.double value, after) := by
  have point : spanDigits (whole ++ '.' :: (fraction ++ rest)) =
      (whole, '.' :: (fraction ++ rest)) := spanDigits_append isWhole.digits (by simp)
  have tail : fractionPart? ('.' :: (fraction ++ rest)) = some (fraction, rest) :=
    congrArg some (spanDigits_append digits stop)
  unfold readNumber readMagnitude
  rw [splitSign_signed negative isWhole, point]
  dsimp only
  rw [isWhole.accepted, if_neg (by decide), tail]
  cases fraction with
  | nil => exact absurd rfl nonempty
  | cons c fraction =>
    dsimp only
    rw [scanned]
    dsimp only [Option.bind_eq_bind, Option.bind_some]
    cases rounding negative whole (c :: fraction) (exponent.getD 0) with
    | none => rfl
    | some value => rfl

theorem fractionPart?_none {rest : List Char} (stop : ∀ c ∈ rest.head?, c ≠ '.') :
    fractionPart? rest = none := by
  unfold fractionPart?
  split
  case h_1 => exact absurd rfl (stop '.' rfl)
  case h_2 => rfl

/-- A numeral without a point: an integer if it has no exponent and is in range, else a double. -/
theorem readNumber_whole (rounding : Rounding) (negative : Bool) {whole rest after : List Char}
    {exponent : Option Int} (isWhole : Whole whole)
    (stop : ∀ c ∈ rest.head?, c.isDigit = false ∧ c ≠ '.')
    (scanned : spanExponent? rest = some (exponent, after)) :
    readNumber rounding (signed negative (whole ++ rest)) =
      ((if exponent.isNone then integerLiteral? negative whole else none).or
        ((rounding negative whole [] (exponent.getD 0)).map .double)).map
        fun number => (number, after) := by
  have run : spanDigits (whole ++ rest) = (whole, rest) :=
    spanDigits_append isWhole.digits fun c first => (stop c first).1
  unfold readNumber readMagnitude
  rw [splitSign_signed negative isWhole, run]
  dsimp only
  rw [isWhole.accepted, if_neg (by decide)]
  rw [fractionPart?_none fun c first => (stop c first).2, scanned]
  dsimp only [Option.bind_eq_bind, Option.bind_some]
  cases (if exponent.isNone then integerLiteral? negative whole else none).or
      ((rounding negative whole [] (exponent.getD 0)).map .double) with
  | none => rfl
  | some number => rfl

theorem spanExponent?_none {rest : List Char} (stop : ∀ c ∈ rest.head?, c ≠ 'e' ∧ c ≠ 'E') :
    spanExponent? rest = some (none, rest) := by
  cases rest with
  | nil => rfl
  | cons c rest =>
    obtain ⟨lower, upper⟩ := stop c rfl
    unfold spanExponent?
    dsimp only
    rw [if_neg (not_or.mpr ⟨lower, upper⟩)]

theorem splitExponentSign_digits {run : List Char} (whole : Whole run) (rest : List Char) :
    splitExponentSign (run ++ rest) = (false, run ++ rest) := by
  unfold splitExponentSign
  split
  case h_1 equal => exact absurd equal (whole.head_ne (by decide) rest _)
  case h_2 equal => exact absurd equal (whole.head_ne (by decide) rest _)
  case h_3 => rfl

/-- The exponent of a layout is read as it was written. -/
theorem spanExponent?_mark (plus : Prop) [Decidable plus] (exponent : Int) {rest : List Char}
    (stop : ∀ c ∈ rest.head?, c.isDigit = false) :
    spanExponent? ((if plus ∧ 0 ≤ exponent then ['e', '+'] else ['e']) ++
      (digitsOfInt exponent ++ rest)) = some (some exponent, rest) := by
  have whole := whole_toDigits exponent.natAbs
  have run : spanDigits (Nat.toDigits 10 exponent.natAbs ++ rest) =
      (Nat.toDigits 10 exponent.natAbs, rest) := spanDigits_append whole.digits stop
  obtain ⟨signed, shape, sign⟩ : ∃ signed,
      (if plus ∧ 0 ≤ exponent then ['e', '+'] else ['e']) ++ (digitsOfInt exponent ++ rest) =
        'e' :: signed ∧
      splitExponentSign signed =
        (decide (exponent < 0), Nat.toDigits 10 exponent.natAbs ++ rest) := by
    unfold digitsOfInt
    by_cases negative : exponent < 0
    · rw [if_pos negative, if_neg (by omega), decide_eq_true negative]
      exact ⟨_, rfl, rfl⟩
    · rw [if_neg negative, decide_eq_false negative]
      split
      · exact ⟨_, rfl, rfl⟩
      · exact ⟨_, rfl, splitExponentSign_digits whole rest⟩
  rw [shape]
  unfold spanExponent?
  dsimp only
  rw [if_pos (.inl rfl), sign]
  dsimp only
  rw [run]
  dsimp only
  rw [if_neg (by simp), valueOfDigits_toDigits]
  by_cases negative : exponent < 0
  · rw [decide_eq_true negative, if_pos rfl, Int.ofNat_natAbs_of_nonpos negative.le, Int.neg_neg]
  · rw [decide_eq_false negative, if_neg (by decide), Int.natAbs_of_nonneg (by omega)]

theorem signed_append (negative : Bool) (text rest : List Char) :
    signed negative text ++ rest = signed negative (text ++ rest) := by
  cases negative with
  | true => rfl
  | false => rfl

/-- The parts of a numeral whose digits are `run`, the last of them counting `10 ^ exponent`. Zeros may
stand around them; behind them there are none, or all up to the first place after the point. -/
def PartsOf (run : List Char) (exponent : Int) (whole fraction : List Char) (written : Int) : Prop :=
  ∃ zeros : Nat, valueOfDigits (whole ++ fraction) = valueOfDigits run * 10 ^ zeros ∧
    written - fraction.length = exponent - zeros ∧ (zeros = 0 ∨ (zeros : Int) = exponent + 1)

/-- A text from which every reader takes the same parts and rounds them. -/
def NumeralOf (negative : Bool) (run : List Char) (exponent : Int) (text : List Char) : Prop :=
  ∃ whole fraction written, PartsOf run exponent whole fraction written ∧
    ∀ (rounding : Rounding) (rest : List Char), EndsNumeral rest →
      readNumber rounding (text ++ rest) =
        (rounding negative whole fraction written).map fun value => (.double value, rest)

section Parts

variable {run whole fraction : List Char} {exponent written : Int}

theorem PartsOf.of_exact (digits : valueOfDigits (whole ++ fraction) = valueOfDigits run)
    (point : written - fraction.length = exponent) : PartsOf run exponent whole fraction written :=
  ⟨0, by rw [digits, Nat.pow_zero, Nat.mul_one], by rw [point, Int.natCast_zero, Int.sub_zero],
    .inl rfl⟩

/-- Zeros at the end of the digits do not matter to the value. -/
theorem PartsOf.nearest (parts : PartsOf run exponent whole fraction written) (negative : Bool) :
    Rounding.nearest negative whole fraction written =
      (Decimal.mk negative (valueOfDigits run) exponent).toDouble? := by
  obtain ⟨zeros, digits, point, _⟩ := parts
  unfold Rounding.nearest Decimal.ofParts
  rw [digits, point, toDouble?_shift]

end Parts

/-- What follows the digits: the exponent of the numeral or nothing. -/
structure Ending (mark : List Char) (exponent : Option Int) : Prop where
  scanned : ∀ {rest}, EndsNumeral rest → spanExponent? (mark ++ rest) = some (exponent, rest)
  stop : ∀ {rest}, EndsNumeral rest → ∀ c ∈ (mark ++ rest).head?, c.isDigit = false ∧ c ≠ '.'

theorem EndsNumeral.scanned {rest : List Char} (ends : EndsNumeral rest) :
    spanExponent? rest = some (none, rest) :=
  spanExponent?_none fun c member => (ends c member).2.2

theorem EndsNumeral.stop {rest : List Char} (ends : EndsNumeral rest) :
    ∀ c ∈ rest.head?, c.isDigit = false ∧ c ≠ '.' :=
  fun c member => ⟨(ends c member).1, (ends c member).2.1⟩

theorem ending_nil : Ending [] none := ⟨fun ends => ends.scanned, fun ends => ends.stop⟩

theorem ending_mark (plus : Prop) [Decidable plus] (exponent : Int) :
    Ending ((if plus ∧ 0 ≤ exponent then ['e', '+'] else ['e']) ++ digitsOfInt exponent)
      (some exponent) where
  scanned ends := by
    rw [List.append_assoc]
    exact spanExponent?_mark plus exponent fun c member => (ends c member).1
  stop _ c member := by
    split at member
    all_goals
      cases member
      decide

theorem numeralOf_fraction (negative : Bool) {run whole fraction mark : List Char} {exponent : Int}
    {written : Option Int} (isWhole : Whole whole) (fractional : ∀ c ∈ fraction, c.isDigit = true)
    (nonempty : fraction ≠ []) (ending : Ending mark written)
    (parts : PartsOf run exponent whole fraction (written.getD 0)) :
    NumeralOf negative run exponent (signed negative (whole ++ '.' :: (fraction ++ mark))) := by
  refine ⟨whole, fraction, written.getD 0, parts, fun rounding rest ends => ?_⟩
  rw [signed_append, List.append_assoc, List.cons_append, List.append_assoc]
  exact readNumber_fraction rounding negative isWhole fractional nonempty
    (fun c member => (ending.stop ends c member).1) (ending.scanned ends)

section Placed

variable {run : List Char} {exponent : Int} {whole : Nat}

/-- All digits stand before the point, with zeros up to it. -/
theorem numeralOf_padded (negative : Bool) (significant : Significant run)
    (point : (run.length : Int) + exponent = whole) (short : run.length ≤ whole) :
    NumeralOf negative run exponent (signed negative
      (run ++ List.replicate (whole - run.length) '0' ++ ['.', '0'])) := by
  obtain ⟨first, tail, shape, nonzero⟩ := significant.first
  have padded : Whole (run ++ List.replicate (whole - run.length) '0') := by
    refine Whole.of_first (fun c member => ?_) (by rw [shape, List.cons_append]) nonzero
    rcases List.mem_append.mp member with digit | zero
    · exact significant.digits c digit
    · exact isDigit_of_mem_zeros zero
  have digits : valueOfDigits (run ++ List.replicate (whole - run.length) '0' ++ ['0']) =
      valueOfDigits run * 10 ^ (whole - run.length + 1) := by
    rw [List.append_assoc, ← List.replicate_succ', valueOfDigits_append, valueOfDigits_zeros,
      List.length_replicate, Nat.add_zero]
  refine numeralOf_fraction negative padded isDigit_of_mem_zero (by decide) ending_nil
    ⟨whole - run.length + 1, digits, ?_, .inr (by omega)⟩
  simp only [Option.getD_none, List.length_cons, List.length_nil]
  omega

/-- The point stands between the digits. -/
theorem numeralOf_split (negative : Bool) (significant : Significant run)
    (point : (run.length : Int) + exponent = whole) (positive : 0 < whole)
    (long : whole < run.length) :
    NumeralOf negative run exponent (signed negative (run.take whole ++ '.' :: run.drop whole)) := by
  obtain ⟨first, tail, shape, nonzero⟩ := significant.first
  have taken : Whole (run.take whole) := by
    have front : run.take whole = first :: tail.take (whole - 1) := by
      rw [shape, List.take_cons (by omega)]
    exact Whole.of_first (fun c member => significant.digits c (List.mem_of_mem_take member)) front
      nonzero
  rw [← List.append_nil (run.drop whole)]
  refine numeralOf_fraction negative taken
    (fun c member => significant.digits c (List.mem_of_mem_drop member)) ?_ ending_nil
    (.of_exact ?_ ?_)
  · rw [ne_eq, List.drop_eq_nil_iff]
    omega
  · rw [List.take_append_drop]
  · rw [List.length_drop, Option.getD_none]
    omega

/-- The point stands in front of all digits, with zeros down to them. -/
theorem numeralOf_small (negative : Bool) (significant : Significant run) {gap : Nat}
    (point : (run.length : Int) + exponent = -gap) :
    NumeralOf negative run exponent
      (signed negative ('0' :: '.' :: (List.replicate gap '0' ++ run))) := by
  obtain ⟨first, tail, shape, _⟩ := significant.first
  rw [← List.append_nil (List.replicate gap '0' ++ run)]
  refine numeralOf_fraction negative whole_zero (fun c member => ?_) ?_ ending_nil
    (.of_exact ?_ ?_)
  · rcases List.mem_append.mp member with zero | digit
    · exact isDigit_of_mem_zeros zero
    · exact significant.digits c digit
  · rw [shape]
    exact List.append_ne_nil_of_right_ne_nil _ (List.cons_ne_nil _ _)
  · rw [← List.append_assoc, List.singleton_append, ← List.replicate_succ, valueOfDigits_append,
      valueOfDigits_zeros, Nat.zero_mul, Nat.zero_add]
  · rw [List.length_append, List.length_replicate, Option.getD_none]
    omega

/-- The first digit stands alone before the point, or there is no point, and an exponent follows. -/
theorem numeralOf_scientific (negative : Bool) (plus : Prop) [Decidable plus]
    (significant : Significant run) :
    NumeralOf negative run exponent (signed negative
      (run.take 1 ++ (if run.length ≤ 1 then [] else '.' :: run.drop 1) ++
        (if plus ∧ 0 ≤ (run.length : Int) + exponent - 1 then ['e', '+'] else ['e']) ++
          digitsOfInt (run.length + exponent - 1))) := by
  obtain ⟨first, tail, rfl, nonzero⟩ := significant.first
  have single : Whole [first] := by
    refine Whole.of_first (fun c member => ?_) rfl nonzero
    rw [List.mem_singleton.mp member]
    exact significant.digits first List.mem_cons_self
  have ending := ending_mark plus ((first :: tail).length + exponent - 1)
  cases tail with
  | nil =>
    have short : [first].length ≤ 1 := Nat.le_refl 1
    refine ⟨[first], [], [first].length + exponent - 1, .of_exact (by rw [List.append_nil]) ?_, ?_⟩
    · simp only [List.length_cons, List.length_nil]
      omega
    · intro rounding rest ends
      rw [if_pos short, List.take_of_length_le short, List.append_nil, signed_append,
        List.append_assoc, List.append_assoc, ← List.append_assoc _ _ rest,
        readNumber_whole rounding negative single (ending.stop ends) (ending.scanned ends)]
      rw [Option.isNone_some, if_neg (by decide), Option.none_or, Option.getD_some, Option.map_map]
      rfl
  | cons second tail =>
    rw [if_neg (by simp), List.append_assoc, List.append_assoc, List.cons_append]
    refine numeralOf_fraction negative single (fun c member => ?_) (List.cons_ne_nil _ _) ending
      (.of_exact rfl ?_)
    · exact significant.digits c (List.mem_cons_of_mem _ member)
    · simp only [Option.getD_some, List.drop_succ_cons, List.drop_zero, List.length_cons]
      omega

/-- Every layout of a run of digits is a numeral of it. -/
theorem numeralOf_place (negative : Bool) (layout : Layout) (significant : Significant run) :
    NumeralOf negative run exponent
      (signed negative (layout.place run (run.length + exponent))) := by
  unfold place
  dsimp only
  split
  case isTrue inside =>
    split
    case isTrue short => exact numeralOf_padded negative significant (by omega) short
    case isFalse long => exact numeralOf_split negative significant (by omega) (by omega) (by omega)
  case isFalse =>
    split
    case isTrue small => exact numeralOf_small negative significant (by omega)
    case isFalse => exact numeralOf_scientific negative (layout.plusSign = true) significant

end Placed

/-- A double that is a zero is the zero of its sign. -/
theorem eq_zero_of_isZero {d : Double} (isZero : d.isZero = true) : d = Double.zero d.negative := by
  have significand : d.significand = 0 := beq_iff_eq.mp isZero
  have scale : d.scale = 0 := by
    rcases d.normalized with subnormal | normal
    · exact subnormal
    · omega
  obtain ⟨negative, m, e, _, _, _⟩ := d
  dsimp only at significand scale
  subst significand scale
  rfl

/-- A written double is a numeral of its digits. -/
theorem numeralOf_double (layout : Layout) (d : Double) :
    ∃ run exponent, NumeralOf d.negative run exponent (layout.double d) ∧
      (∀ c ∈ run, c.isDigit = true) ∧
      (Decimal.mk d.negative (valueOfDigits run) exponent).toDouble? = some d ∧
      (d.isZero = true ∧ run = ['0'] ∧ exponent = 0 ∨ (run, exponent) = d.shortest) := by
  have shape : layout.double d = signed d.negative (layout.magnitude d) := rfl
  rw [shape]
  unfold magnitude
  cases isZero : d.isZero with
  | true =>
    rw [if_pos rfl]
    have value : (Decimal.mk d.negative (valueOfDigits ['0']) 0).toDouble? =
        some (Double.zero d.negative) := rfl
    rw [← eq_zero_of_isZero isZero] at value
    refine ⟨['0'], 0, ?_, isDigit_of_mem_zero, value, .inl ⟨rfl, rfl, rfl⟩⟩
    exact numeralOf_fraction d.negative whole_zero isDigit_of_mem_zero (by decide) ending_nil
      ⟨1, rfl, rfl, .inr rfl⟩
  | false =>
    rw [if_neg (by decide)]
    have spells := Double.shortest_spells isZero
    exact ⟨_, _, numeralOf_place d.negative layout spells.toSignificant, spells.digits, spells.value,
      .inr rfl⟩

/-- An integer reads back however doubles are rounded. -/
theorem readNumber_int (rounding : Rounding) {value : Int} (fits : -2 ^ 63 ≤ value ∧ value < 2 ^ 64)
    {rest : List Char} (ends : EndsNumeral rest) :
    readNumber rounding (digitsOfInt value ++ rest) = some (.int value fits, rest) := by
  have whole := whole_toDigits value.natAbs
  have shape : digitsOfInt value ++ rest =
      signed (decide (value < 0)) (Nat.toDigits 10 value.natAbs ++ rest) := by
    unfold digitsOfInt signed
    by_cases negative : value < 0
    · rw [if_pos negative, if_pos (decide_eq_true negative), List.cons_append]
    · rw [if_neg negative, if_neg (by simpa using negative)]
  have literal : integerLiteral? (decide (value < 0)) (Nat.toDigits 10 value.natAbs) =
      some (.int value fits) := by
    unfold integerLiteral?
    rw [valueOfDigits_toDigits]
    dsimp only
    have signedZero : ¬ (decide (value < 0) = true ∧ (value.natAbs : Int) = 0) := by
      rw [decide_eq_true_eq]
      omega
    have signedValue : (if decide (value < 0) = true then -(value.natAbs : Int) else value.natAbs) =
        value := by
      split
      case isTrue below =>
        have := of_decide_eq_true below
        omega
      case isFalse above =>
        have := of_decide_eq_false ((Bool.not_eq_true _).mp above)
        omega
    rw [if_neg signedZero, signedValue]
    unfold Number.ofInt?
    rw [dif_pos fits]
  rw [shape, readNumber_whole rounding _ whole ends.stop ends.scanned,
    Option.isNone_none, if_pos rfl, literal]
  rfl

/-- Rounding to the nearest reads back every written number, whatever its layout. -/
theorem readNumber_write (layout : Layout) (number : Number) {rest : List Char}
    (ends : EndsNumeral rest) :
    readNumber .nearest (number.write layout ++ rest) = some (number, rest) := by
  cases number with
  | int value fits => exact readNumber_int .nearest fits ends
  | double d =>
    obtain ⟨run, exponent, ⟨whole, fraction, written, parts, reads⟩, _, value, _⟩ :=
      numeralOf_double layout d
    have reads := reads .nearest rest ends
    rw [parts.nearest, value] at reads
    exact reads

end Reconcile.Json
