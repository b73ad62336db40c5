import Reconcile.Number.Decimal

/-!
# The fewest digits that read back

`Double.shortest` gives the significant digits of a magnitude and the power of ten of the last of
them: the fewest digits whose numeral rounds back to the same `Double`, of two such numerals the
nearer, of two equally near the even one.

A magnitude times `10 ^ 1074` is a natural number, `expansion`, because a unit is `2 ^ -1074`. So
the two neighbours of the value on the grid of `n`-digit numerals are a quotient of the expansion
by a power of ten and its successor. A neighbour is taken only when it reads back, so whatever the
search returns reads back; the expansion itself, which is exact, stands where no shorter numeral does.
-/
namespace Reconcile

/-- Drop trailing zeros of a digit run and count them into the exponent. -/
def trimZeros (run : List Char) (exponent : Int) : List Char × Int :=
  let kept := (run.reverse.dropWhile (· = '0')).reverse
  (kept, exponent + (run.length - kept.length : Nat))

namespace Double

/-- The magnitude times `10 ^ 1074`. -/
def expansion (d : Double) : Nat := d.units * 5 ^ 1074

/-- Does the numeral `digits * 10 ^ exponent`, with the sign of `d`, round to `d`? -/
def readsBack (d : Double) (digits : Nat) (exponent : Int) : Bool :=
  (Decimal.mk d.negative digits exponent).toDouble? == some d

/-- The neighbour of `d` on the grid that leaves out the last `dropped` digits of its expansion
that reads back, if one does. -/
def onGrid? (d : Double) (dropped : Nat) : Option (Nat × Int) :=
  let step := 10 ^ dropped
  let low := d.expansion / step
  let exponent : Int := dropped - 1074
  let twice := 2 * (d.expansion % step)
  let lowReads := d.readsBack low exponent
  let highReads := d.readsBack (low + 1) exponent
  let lowNearer := twice < step || (twice == step && low % 2 == 0)
  if lowReads && (lowNearer || !highReads) then some (low, exponent)
  else if highReads then some (low + 1, exponent)
  else none

/-- The first grid with a numeral that reads back, counting digits up from `17 - remaining + 1`. -/
def searchGrids (d : Double) (size : Nat) : (remaining : Nat) → Nat × Int
  | 0 => (d.expansion, -1074)
  | remaining + 1 => (d.onGrid? (size - (17 - remaining))).getD (searchGrids d size remaining)

/-- The significant digits of the magnitude of a nonzero `d`, and the power of ten of the last. -/
def shortest (d : Double) : List Char × Int :=
  let numeral := d.searchGrids (Nat.toDigits 10 d.expansion).length 17
  trimZeros (Nat.toDigits 10 numeral.1) numeral.2

end Double

end Reconcile
