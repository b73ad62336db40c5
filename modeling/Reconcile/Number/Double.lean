/-!
# Finite binary64 numbers, exactly

A `Double` is a sign and a magnitude `significand * 2 ^ scale`, counted in units of `2 ^ -1074`,
the smallest positive value of the format. The proof fields make the representation canonical, so
that two equal values other than the two zeros are one term. Every magnitude is a natural number
of units; nothing here is approximate. `ofUnits?` rounds any ratio of units to the nearest value of
the format, a tie to the even significand, and has no answer past the largest one.
-/
namespace Reconcile

-- A power is the one that `Nat` and `Int` define, also where a library of algebra offers another.
attribute [instance (high), default_instance (20000)] instPowNat

/-- The quotient to the nearest integer, a tie to the even one. -/
def divNearestEven (numerator denominator : Nat) : Nat :=
  let quotient := numerator / denominator
  let twice := 2 * (numerator % denominator)
  if twice < denominator then quotient
  else if denominator < twice then quotient + 1
  else quotient + quotient % 2

structure Double where
  negative : Bool
  significand : Nat
  scale : Nat
  significand_lt : significand < 2 ^ 53
  normalized : scale = 0 ∨ 2 ^ 52 ≤ significand
  scale_le : scale ≤ 2045
  deriving DecidableEq, Repr

namespace Double

/-- One, counted in units. -/
def unitsPerOne : Nat := 2 ^ 1074

/-- The magnitude in units. -/
def units (d : Double) : Nat := d.significand * 2 ^ d.scale

/-- The signed value in units; both zeros have value zero. -/
def toUnits (d : Double) : Int := if d.negative then -(d.units : Int) else d.units

def zero (negative : Bool) : Double :=
  ⟨negative, 0, 0, by decide, .inl rfl, by decide⟩

instance : Inhabited Double := ⟨zero false⟩

def isZero (d : Double) : Bool := d.significand == 0

/-- Equality of values, under which the two zeros are equal. -/
def sameValue (a b : Double) : Bool := a.toUnits == b.toUnits

/-- The value with this significand and scale, if the format has it. -/
def ofParts? (negative : Bool) (significand scale : Nat) : Option Double :=
  if h : significand < 2 ^ 53 ∧ (scale = 0 ∨ 2 ^ 52 ≤ significand) ∧ scale ≤ 2045 then
    some ⟨negative, significand, scale, h.1, h.2.1, h.2.2⟩
  else none

/-- Round `numerator / denominator` units. The scale leaves 53 bits of the quotient, or all of it
when it has fewer; rounding up to `2 ^ 53` moves on to the next scale. -/
def ofUnits? (negative : Bool) (numerator denominator : Nat) : Option Double :=
  let scale := (numerator / denominator).log2 - 52
  let significand := divNearestEven numerator (denominator * 2 ^ scale)
  if significand = 2 ^ 53 then ofParts? negative (2 ^ 52) (scale + 1)
  else ofParts? negative significand scale

/-- The integer that the value is, if it is one. -/
def toInt? (d : Double) : Option Int :=
  if d.units % unitsPerOne = 0 then
    let whole : Int := (d.units / unitsPerOne : Nat)
    some (if d.negative then -whole else whole)
  else none

end Double

end Reconcile
