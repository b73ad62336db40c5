import Reconcile.Number.Decimal

/-!
# How a numeral becomes a double

A `Rounding` makes a double of the parts of a numeral: its digits before and after the point and its
exponent. `Rounding.nearest` rounds the value of the numeral once. `Rounding.stepwise` works in
doubles and rounds at every step: it takes digits into a significand of 64 bits as long as that
holds them, turns the significand into a double, and multiplies or divides by a power of ten, which
is a rounded double itself. Its answer can be a neighbour of the nearest double, so the digits of a
double need not give that double back.
-/
namespace Reconcile

/-- How the parts of a numeral become a double; none where the value is past every double. -/
abbrev Rounding := (negative : Bool) → (whole fraction : List Char) → (exponent : Int) → Option Double

namespace Double

/-- The double nearest to a power of ten; `10 ^ 308` is the last one that has any. -/
def tenPow? (power : Nat) : Option Double := (Decimal.mk false 1 power).toDouble?

def timesTenPow? (d : Double) (power : Nat) : Option Double := do
  ofUnits? d.negative (d.units * (← tenPow? power).units) unitsPerOne

def overTenPow? (d : Double) (power : Nat) : Option Double := do
  ofUnits? d.negative (d.units * unitsPerOne) (← tenPow? power).units

/-- A significand of 64 bits times a power of ten, rounded at every step. Powers past `10 ^ 308` are
divided by in two steps, and after two divisions by `10 ^ 308` nothing is left of the significand. -/
def stepwise? (negative : Bool) (significand : Nat) (exponent : Int) : Option Double := do
  let d ← ofUnits? negative (significand * unitsPerOne) 1
  if 308 < exponent then if d.isZero then some d else none
  else if 0 ≤ exponent then d.timesTenPow? exponent.toNat
  else if -308 ≤ exponent then d.overTenPow? (-exponent).toNat
  else if -616 ≤ exponent then (← d.overTenPow? 308).overTenPow? (-exponent - 308).toNat
  else some (zero negative)

end Double

namespace Rounding

def nearest : Rounding := fun negative whole fraction exponent =>
  (Decimal.ofParts negative whole fraction exponent).toDouble?

/-- Take digits into a significand of 64 bits until one does not fit, and give back the digits that
were not taken. -/
def takeDigits (significand : Nat) : List Char → Nat × List Char
  | [] => (significand, [])
  | c :: rest =>
    let longer := 10 * significand + (c.toNat - '0'.toNat)
    if longer < 2 ^ 64 then takeDigits longer rest else (significand, c :: rest)

/-- Digits before the point that do not fit count as zeros. Those after it that do not fit are left
out. -/
def stepwise : Rounding := fun negative whole fraction exponent =>
  let (significand, zeros) := takeDigits 0 whole
  let (significand, unused) := takeDigits significand fraction
  Double.stepwise? negative significand
    (exponent + zeros.length - (fraction.length - unused.length : Nat))

end Rounding

end Reconcile
