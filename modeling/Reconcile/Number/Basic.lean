import Reconcile.Number.Shortest

/-!
# Numbers of a document

A number is an integer of 64 bits, signed or unsigned, or a finite `Double`; the two kinds are
never equal. `Number.write` gives its text: an integer in plain decimal, a double as its shortest
digits, laid out by a `Layout`.
-/
namespace Reconcile

inductive Number where
  | int (value : Int) (fits : -2 ^ 63 ≤ value ∧ value < 2 ^ 64)
  | double (value : Double)
  deriving DecidableEq, Repr

/-- How the digits of a double are laid out. A point stands inside or beside them when it falls
after at most `maxWhole` digits and before at most `maxZeros` zeros; else the first digit is
followed by the point and an exponent. -/
structure Layout where
  maxWhole : Nat := 16
  maxZeros : Nat := 4
  /-- Is the plus sign of a positive exponent written? -/
  plusSign : Bool

namespace Layout

def digitsOfInt (i : Int) : List Char :=
  if i < 0 then '-' :: Nat.toDigits 10 i.natAbs else Nat.toDigits 10 i.natAbs

/-- Lay out `0.d₁d₂… * 10 ^ point` for the nonempty digit run `d₁d₂…`. -/
def place (layout : Layout) (run : List Char) (point : Int) : List Char :=
  if 0 < point ∧ point ≤ layout.maxWhole then
    let whole := point.toNat
    if run.length ≤ whole then run ++ List.replicate (whole - run.length) '0' ++ ['.', '0']
    else run.take whole ++ '.' :: run.drop whole
  else if point ≤ 0 ∧ -point ≤ layout.maxZeros then
    '0' :: '.' :: (List.replicate (-point).toNat '0' ++ run)
  else
    let exponent := point - 1
    let fraction := if run.length ≤ 1 then [] else '.' :: run.drop 1
    let mark := if layout.plusSign ∧ 0 ≤ exponent then ['e', '+'] else ['e']
    run.take 1 ++ fraction ++ mark ++ digitsOfInt exponent

def magnitude (layout : Layout) (d : Double) : List Char :=
  if d.isZero then ['0', '.', '0']
  else layout.place d.shortest.1 (d.shortest.1.length + d.shortest.2)

def double (layout : Layout) (d : Double) : List Char :=
  if d.negative then '-' :: layout.magnitude d else layout.magnitude d

end Layout

namespace Number

instance : Inhabited Number := ⟨.int 0 (by decide)⟩

/-- The integer kind, for integers of 64 bits. -/
def ofInt? (value : Int) : Option Number :=
  if h : -2 ^ 63 ≤ value ∧ value < 2 ^ 64 then some (.int value h) else none

/-- Equality of values of one kind. -/
def same : Number → Number → Bool
  | .int a _, .int b _ => a == b
  | .double a, .double b => a.sameValue b
  | _, _ => false

def write (layout : Layout) : Number → List Char
  | .int value _ => Layout.digitsOfInt value
  | .double value => layout.double value

end Number

end Reconcile
