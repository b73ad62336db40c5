import Reconcile.Json.Writer
import Reconcile.Number.Rounding

/-!
# Reading JSON text

A strict reader: only space, tab and the two line breaks are blanks, quoted text holds no raw
control character, an escaped surrogate needs its partner, a literal past the finite doubles is
refused, and nothing may follow the document. Containers nest at most `depth` deep.

`readRaw?` keeps a repeated name of an object as often as it is written; `read?` collapses it.
An integer literal is an integer if 64 bits hold it and a double otherwise; the literal `-0` is a
double, the only way to keep its sign. The readers of parts are told how to round a double;
`readRaw?` and `read?` round by steps.
-/
namespace Reconcile.Json

def isBlank (c : Char) : Bool := c == ' ' || c == '\t' || c == '\n' || c == '\r'

def skipBlanks (text : List Char) : List Char := text.dropWhile isBlank

def hexValue? (c : Char) : Option Nat :=
  if '0' ≤ c ∧ c ≤ '9' then some (c.toNat - '0'.toNat)
  else if 'a' ≤ c ∧ c ≤ 'f' then some (c.toNat - 'a'.toNat + 10)
  else if 'A' ≤ c ∧ c ≤ 'F' then some (c.toNat - 'A'.toNat + 10)
  else none

/-- The value of four hexadecimal digits. -/
def hexUnit? (a b c d : Char) : Option Nat := do
  return 4096 * (← hexValue? a) + 256 * (← hexValue? b) + 16 * (← hexValue? c) + (← hexValue? d)

/-- The character that a backslash and this letter stand for. -/
def unescape? (letter : Char) : Option Char :=
  if letter = '"' then some '"'
  else if letter = '\\' then some '\\'
  else if letter = '/' then some '/'
  else if letter = 'b' then some '\x08'
  else if letter = 'f' then some '\x0c'
  else if letter = 'n' then some '\n'
  else if letter = 'r' then some '\r'
  else if letter = 't' then some '\t'
  else none

/-- Quoted text up to its closing quote, after the characters of `seen`, which are reversed. -/
def readString (seen : List Char) : List Char → Option (String × List Char)
  | [] => none
  | c :: rest =>
    if c = '"' then some (String.ofList seen.reverse, rest)
    else if c = '\\' then
      match rest with
      | [] => none
      | letter :: rest =>
        if letter = 'u' then
          match rest with
          | h₁ :: h₂ :: h₃ :: h₄ :: rest =>
            match hexUnit? h₁ h₂ h₃ h₄ with
            | none => none
            | some unit =>
              if 0xDC00 ≤ unit ∧ unit < 0xE000 then none
              else if 0xD800 ≤ unit ∧ unit < 0xDC00 then
                match rest with
                | '\\' :: 'u' :: l₁ :: l₂ :: l₃ :: l₄ :: rest =>
                  match hexUnit? l₁ l₂ l₃ l₄ with
                  | none => none
                  | some low =>
                    if 0xDC00 ≤ low ∧ low < 0xE000 then
                      readString
                        (Char.ofNat (0x10000 + (unit - 0xD800) * 1024 + (low - 0xDC00)) :: seen)
                        rest
                    else none
                | _ => none
              else readString (Char.ofNat unit :: seen) rest
          | _ => none
        else
          match unescape? letter with
          | none => none
          | some c => readString (c :: seen) rest
    else if c.toNat < 32 then none
    else readString (c :: seen) rest

/-- The integer literal `whole`, if it has no fraction and no exponent. -/
def integerLiteral? (negative : Bool) (whole : List Char) : Option Number :=
  let magnitude : Int := Decimal.valueOfDigits whole
  if negative ∧ magnitude = 0 then none
  else Number.ofInt? (if negative then -magnitude else magnitude)

/-- Is there a minus sign, and what follows it? -/
def splitSign : List Char → Bool × List Char
  | '-' :: rest => (true, rest)
  | text => (false, text)

/-- The digits after a point, if there is one, and what follows them. -/
def fractionPart? : List Char → Option (List Char × List Char)
  | '.' :: rest => some (Decimal.spanDigits rest)
  | _ => none

/-- A number after its sign: no leading zero, a digit on each side of the point. -/
def readMagnitude (rounding : Rounding) (negative : Bool) (text : List Char) :
    Option (Number × List Char) :=
  let (whole, rest) := Decimal.spanDigits text
  if whole.isEmpty || (whole.length > 1 && whole.head? == some '0') then none
  else
    match fractionPart? rest with
    | some ([], _) => none
    | some (fraction, rest) => do
      let (exponent, rest) ← Decimal.spanExponent? rest
      let value ← rounding negative whole fraction (exponent.getD 0)
      return (.double value, rest)
    | none => do
      let (exponent, rest) ← Decimal.spanExponent? rest
      let integer := if exponent.isNone then integerLiteral? negative whole else none
      let number ← integer.or ((rounding negative whole [] (exponent.getD 0)).map .double)
      return (number, rest)

def readNumber (rounding : Rounding) (text : List Char) : Option (Number × List Char) :=
  readMagnitude rounding (splitSign text).1 (splitSign text).2

mutual

/-- A document at the head of the text, which starts with no blank. -/
def readDoc (rounding : Rounding) : (fuel depth : Nat) → List Char → Option (Doc × List Char)
  | 0, _, _ => none
  | fuel + 1, depth, text =>
    match text with
    | 'n' :: 'u' :: 'l' :: 'l' :: rest => some (.null, rest)
    | 't' :: 'r' :: 'u' :: 'e' :: rest => some (.bool true, rest)
    | 'f' :: 'a' :: 'l' :: 's' :: 'e' :: rest => some (.bool false, rest)
    | '"' :: rest => (readString [] rest).map fun (s, rest) => (.string s, rest)
    | '[' :: rest =>
      match depth with
      | 0 => none
      | depth + 1 =>
        match skipBlanks rest with
        | ']' :: rest => some (.array [], rest)
        | rest =>
          (readItems rounding fuel depth rest).map fun (items, rest) => (.array items, rest)
    | '\x7b' :: rest =>
      match depth with
      | 0 => none
      | depth + 1 =>
        match skipBlanks rest with
        | '\x7d' :: rest => some (.object [], rest)
        | rest =>
          (readFields rounding fuel depth rest).map fun (fields, rest) => (.object fields, rest)
    | text => (readNumber rounding text).map fun (number, rest) => (.number number, rest)

/-- The items of a list, at least one, up to its closing bracket. -/
def readItems (rounding : Rounding) :
    (fuel depth : Nat) → List Char → Option (List Doc × List Char)
  | 0, _, _ => none
  | fuel + 1, depth, text =>
    match readDoc rounding fuel depth text with
    | none => none
    | some (item, rest) =>
      match skipBlanks rest with
      | ',' :: rest =>
        (readItems rounding fuel depth (skipBlanks rest)).map fun (items, rest) =>
          (item :: items, rest)
      | ']' :: rest => some ([item], rest)
      | _ => none

/-- The fields of an object, at least one, up to its closing brace. -/
def readFields (rounding : Rounding) :
    (fuel depth : Nat) → List Char → Option (List (String × Doc) × List Char)
  | 0, _, _ => none
  | fuel + 1, depth, text =>
    match text with
    | '"' :: rest =>
      match readString [] rest with
      | none => none
      | some (key, rest) =>
        match skipBlanks rest with
        | ':' :: rest =>
          match readDoc rounding fuel depth (skipBlanks rest) with
          | none => none
          | some (value, rest) =>
            match skipBlanks rest with
            | ',' :: rest =>
              (readFields rounding fuel depth (skipBlanks rest)).map fun (fields, rest) =>
                ((key, value) :: fields, rest)
            | '\x7d' :: rest => some ([(key, value)], rest)
            | _ => none
        | _ => none
    | _ => none

end

/-- The document that the text holds, repeated names kept. Each call that nests or moves on past a
comma has consumed a character, so twice the length of the text is fuel enough. -/
def readRaw? (depth : Nat) (text : List Char) : Option Doc :=
  match readDoc .stepwise (2 * text.length + 2) depth (skipBlanks text) with
  | some (doc, rest) => if (skipBlanks rest).isEmpty then some doc else none
  | none => none

/-- The document that the text holds. -/
def read? (depth : Nat) (text : String) : Option Doc :=
  (readRaw? depth text.toList).map Doc.collapse

end Reconcile.Json
