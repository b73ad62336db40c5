import Reconcile.Number.Basic
import Reconcile.Number.Rounding

/-!
# What a scalar says

A plain scalar is read by its look: null, a boolean, an integer, a real number or, if it looks like
none of these, the text itself. An integer may have a sign and is decimal, or has the mark `0x`, `0o`
or `0b`; a decimal run of digits that starts with a needless zero is text. Integers past 64 bits but
within 128 bits have no reading at all, and wider ones are read as real numbers. A real number has
digits on at least one side of its point; one past every double is text.

A scalar with one of the four standard tags is read as that tag demands or not at all.
-/
namespace Reconcile.Yaml

inductive Scalar where
  | null
  | bool (value : Bool)
  | number (value : Number)
  | infinite (negative : Bool)
  | nan
  | text (value : String)
  deriving DecidableEq, Repr

namespace Scalar

def isNullWord (word : String) : Bool := ["~", "null", "Null", "NULL"].contains word

def boolWord? (word : String) : Option Bool :=
  if ["true", "True", "TRUE"].contains word then some true
  else if ["false", "False", "FALSE"].contains word then some false
  else none

/-- The sign before a numeral, and the rest of it. -/
def splitSign : List Char → Bool × List Char
  | '-' :: rest => (true, rest)
  | '+' :: rest => (false, rest)
  | numeral => (false, numeral)

def digit? (base : Nat) (c : Char) : Option Nat :=
  let value :=
    if c.isDigit then c.toNat - '0'.toNat
    else if 'a' ≤ c ∧ c ≤ 'f' then c.toNat - 'a'.toNat + 10
    else if 'A' ≤ c ∧ c ≤ 'F' then c.toNat - 'A'.toNat + 10
    else base
  if value < base then some value else none

/-- The value of a nonempty run of digits. -/
def natOfDigits? (base : Nat) (run : List Char) : Option Nat :=
  if run.isEmpty then none
  else run.foldlM (fun value c => (digit? base c).map (base * value + ·)) 0

def baseOfMark? : Char → Option Nat
  | 'x' => some 16
  | 'o' => some 8
  | 'b' => some 2
  | _ => none

/-- An integer numeral less its sign. After a leading zero only the mark of a base may follow. -/
def magnitude? : List Char → Option Nat
  | '0' :: mark :: run => (baseOfMark? mark).bind (natOfDigits? · run)
  | run => natOfDigits? 10 run

/-- The integer that a numeral denotes, of any size. -/
def integer? (numeral : List Char) : Option Int :=
  let (negative, unsigned) := splitSign numeral
  (magnitude? unsigned).map fun n => if negative then -(n : Int) else n

/-- Does an integer fit into 128 bits? -/
def fitsWide (i : Int) : Bool := decide (-2 ^ 127 ≤ i ∧ i < 2 ^ 128)

/-- A decimal numeral less its sign. -/
def decimal? (negative : Bool) (unsigned : List Char) : Option Double :=
  let (whole, rest) := Decimal.spanDigits unsigned
  let (fraction, rest) := match rest with
    | '.' :: rest => Decimal.spanDigits rest
    | rest => ([], rest)
  if whole.isEmpty && fraction.isEmpty then none
  else
    match Decimal.spanExponent? rest with
    | some (exponent, []) => Rounding.nearest negative whole fraction (exponent.getD 0)
    | _ => none

/-- The real number that a numeral denotes. -/
def real? (numeral : String) : Option Scalar :=
  let (negative, unsigned) := splitSign numeral.toList
  if [".inf", ".Inf", ".INF"].contains (String.ofList unsigned) then some (.infinite negative)
  else if [".nan", ".NaN", ".NAN"].contains numeral then some .nan
  else (decimal? negative unsigned).map fun d => .number (.double d)

/-- Several digits of which the first is zero, after an optional sign. -/
def hasNeedlessZero (numeral : String) : Bool :=
  match (splitSign numeral.toList).2 with
  | '0' :: c :: rest => (c :: rest).all Char.isDigit
  | _ => false

/-- What a plain scalar that is no integer says. -/
def ofWord (word : String) : Scalar :=
  if hasNeedlessZero word then .text word else (real? word).getD (.text word)

/-- What a plain scalar says; an integer of more than 64 bits that fits into 128 says nothing. -/
def ofPlain? (word : String) : Option Scalar :=
  if word.isEmpty || isNullWord word then some .null
  else
    match boolWord? word with
    | some value => some (.bool value)
    | none =>
      match integer? word.toList with
      | none => some (ofWord word)
      | some i =>
        match Number.ofInt? i with
        | some n => some (.number n)
        | none => if fitsWide i then none else some (ofWord word)

/-- What comes before the names of the standard tags. -/
def standardTags : String := "tag:yaml.org,2002:"

/-- What a scalar with a tag says, unless the tag is local. -/
def ofTagged? (tag word : String) : Option Scalar :=
  if tag = standardTags ++ "bool" then (boolWord? word).map .bool
  else if tag = standardTags ++ "int" then ((integer? word.toList).bind Number.ofInt?).map .number
  else if tag = standardTags ++ "float" then real? word
  else if tag = standardTags ++ "null" then if isNullWord word then some .null else none
  else some (.text word)

/-- The text of a scalar that names a field; null and the numbers that are not finite have none. -/
def keyText? (layout : Layout) : Scalar → Option String
  | .bool value => some (if value then "true" else "false")
  | .number value => some (String.ofList (value.write layout))
  | .text value => some value
  | .null | .infinite _ | .nan => none

end Scalar

end Reconcile.Yaml
