import Reconcile.Number.Double

/-!
# Decimal numerals

`Decimal` is what a written numeral denotes: `digits * 10 ^ exponent` with a sign. `toDouble?`
rounds it to the nearest `Double`. Two guards keep the powers of ten small: with a nonzero digit a
value of `10 ^ 400` or more is past every `Double`, and one below `10 ^ -400` rounds to zero.

The parts of a written numeral are scanned here too: a run of digits and an exponent part, which
the JSON and YAML readers combine under their own rules.
-/
namespace Reconcile

structure Decimal where
  negative : Bool
  digits : Nat
  exponent : Int
  deriving DecidableEq, Repr

namespace Decimal

/-- The value of a run of decimal digits. -/
def valueOfDigits (run : List Char) : Nat := Nat.ofDigitChars 10 run 0

theorem valueOfDigits_append (left right : List Char) :
    valueOfDigits (left ++ right) =
      valueOfDigits left * 10 ^ right.length + valueOfDigits right := by
  unfold valueOfDigits
  rw [Nat.ofDigitChars_append, Nat.ofDigitChars_eq_ofDigitChars_zero, Nat.mul_comm]

@[simp] theorem valueOfDigits_zeros (count : Nat) :
    valueOfDigits (List.replicate count '0') = 0 := by
  unfold valueOfDigits
  rw [Nat.ofDigitChars_replicate_zero, Nat.mul_zero]

@[simp] theorem valueOfDigits_toDigits (n : Nat) : valueOfDigits (Nat.toDigits 10 n) = n :=
  Nat.ofDigitChars_ten_toDigits

/-- The numeral `whole.fraction` times ten to the `exponent`. -/
def ofParts (negative : Bool) (whole fraction : List Char) (exponent : Int) : Decimal :=
  ⟨negative, valueOfDigits (whole ++ fraction), exponent - fraction.length⟩

def toDouble? (d : Decimal) : Option Double :=
  if d.digits = 0 then some (Double.zero d.negative)
  else if d.exponent > 400 then none
  else if d.exponent < -(400 + d.digits.log2 : Int) then some (Double.zero d.negative)
  else Double.ofUnits? d.negative
    (d.digits * 10 ^ d.exponent.toNat * Double.unitsPerOne) (10 ^ (-d.exponent).toNat)

/-- A run of digits and what follows it. -/
def spanDigits (text : List Char) : List Char × List Char :=
  (text.takeWhile Char.isDigit, text.dropWhile Char.isDigit)

/-- A run of digits ends where something else than a digit stands. -/
theorem spanDigits_append {run rest : List Char} (digits : ∀ c ∈ run, c.isDigit = true)
    (stop : ∀ c ∈ rest.head?, c.isDigit = false) : spanDigits (run ++ rest) = (run, rest) := by
  unfold spanDigits
  rw [List.takeWhile_append_of_pos digits, List.dropWhile_append_of_pos digits]
  cases rest with
  | nil => rw [List.takeWhile_nil, List.dropWhile_nil, List.append_nil]
  | cons c rest =>
    have nondigit : ¬ c.isDigit = true := by rw [stop c rfl]; decide
    rw [List.takeWhile_cons_of_neg nondigit, List.dropWhile_cons_of_neg nondigit, List.append_nil]

/-- Is the exponent negative, and what follows its sign? -/
def splitExponentSign : List Char → Bool × List Char
  | '+' :: rest => (false, rest)
  | '-' :: rest => (true, rest)
  | rest => (false, rest)

/-- The exponent part, if there is one; an exponent mark needs a digit after it. -/
def spanExponent? : List Char → Option (Option Int × List Char)
  | [] => some (none, [])
  | mark :: rest =>
    if mark = 'e' ∨ mark = 'E' then
      let (negative, rest) := splitExponentSign rest
      let (run, rest) := spanDigits rest
      if run.isEmpty then none
      else
        let magnitude : Int := valueOfDigits run
        some (some (if negative then -magnitude else magnitude), rest)
    else some (none, mark :: rest)

end Decimal

end Reconcile
