import Reconcile.Doc.Basic

/-!
# JSON text of documents

`Json.write doc rest` puts the compact text of `doc` in front of `rest`: no blanks, names in their
order. Writing in front of what follows keeps the work linear, and lets a statement about reading
name whatever comes after. `Json.writePretty` is the same text over several lines, two
blanks for each level.
-/
namespace Reconcile.Json

/-- JSON writes the sign of every decimal exponent. -/
def layout : Layout := { plusSign := true }

def hexDigit (n : Nat) : Char :=
  if n < 10 then Char.ofNat ('0'.toNat + n) else Char.ofNat ('a'.toNat + (n - 10))

/-- The text of one character inside quotes. -/
def escape (c : Char) : List Char :=
  if c = '"' then ['\\', '"']
  else if c = '\\' then ['\\', '\\']
  else if c = '\x08' then ['\\', 'b']
  else if c = '\t' then ['\\', 't']
  else if c = '\n' then ['\\', 'n']
  else if c = '\x0c' then ['\\', 'f']
  else if c = '\r' then ['\\', 'r']
  else if c.toNat < 32 then
    ['\\', 'u', '0', '0', hexDigit (c.toNat / 16), hexDigit (c.toNat % 16)]
  else [c]

def writeString (s : String) (rest : List Char) : List Char :=
  '"' :: (s.toList.flatMap escape ++ '"' :: rest)

def writeBool : Bool → List Char → List Char
  | true, rest => 't' :: 'r' :: 'u' :: 'e' :: rest
  | false, rest => 'f' :: 'a' :: 'l' :: 's' :: 'e' :: rest

mutual

/-- The compact text of a document, in front of `rest`. -/
def write : Doc → List Char → List Char
  | .null, rest => 'n' :: 'u' :: 'l' :: 'l' :: rest
  | .bool value, rest => writeBool value rest
  | .number value, rest => value.write layout ++ rest
  | .string value, rest => writeString value rest
  | .array items, rest => '[' :: writeItems items (']' :: rest)
  | .object fields, rest => '\x7b' :: writeFields fields ('\x7d' :: rest)
termination_by structural doc => doc

def writeItems : List Doc → List Char → List Char
  | [], rest => rest
  | item :: items, rest =>
    write item (if items.isEmpty then rest else ',' :: writeItems items rest)
termination_by structural items => items

def writeFields : List (String × Doc) → List Char → List Char
  | [], rest => rest
  | (key, value) :: fields, rest =>
    writeString key
      (':' :: write value (if fields.isEmpty then rest else ',' :: writeFields fields rest))
termination_by structural fields => fields

end

/-- A line break and the blanks of a level. -/
def breakLine (level : Nat) (rest : List Char) : List Char :=
  '\n' :: (List.replicate (2 * level) ' ' ++ rest)

mutual

/-- The text over several lines of a document that stands at `level`, in front of `rest`. -/
def writePretty : Doc → (level : Nat) → List Char → List Char
  | .null, _, rest => write .null rest
  | .bool value, _, rest => write (.bool value) rest
  | .number value, _, rest => write (.number value) rest
  | .string value, _, rest => write (.string value) rest
  | .array [], _, rest => '[' :: ']' :: rest
  | .array items, level, rest =>
    '[' :: writePrettyItems items (level + 1) (breakLine level (']' :: rest))
  | .object [], _, rest => '\x7b' :: '\x7d' :: rest
  | .object fields, level, rest =>
    '\x7b' :: writePrettyFields fields (level + 1) (breakLine level ('\x7d' :: rest))
termination_by structural doc => doc

def writePrettyItems : List Doc → Nat → List Char → List Char
  | [], _, rest => rest
  | item :: items, level, rest =>
    breakLine level (writePretty item level
      (if items.isEmpty then rest else ',' :: writePrettyItems items level rest))
termination_by structural items => items

def writePrettyFields : List (String × Doc) → Nat → List Char → List Char
  | [], _, rest => rest
  | (key, value) :: fields, level, rest =>
    breakLine level (writeString key (':' :: ' ' :: writePretty value level
      (if fields.isEmpty then rest else ',' :: writePrettyFields fields level rest)))
termination_by structural fields => fields

end

/-- The compact text of a document. -/
def compact (doc : Doc) : String := String.ofList (write doc [])

/-- The text of a document over several lines, without a final line break. -/
def pretty (doc : Doc) : String := String.ofList (writePretty doc 0 [])

end Reconcile.Json
