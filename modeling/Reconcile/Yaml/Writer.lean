import Reconcile.Doc.Basic
import Reconcile.Yaml.Style

/-!
# YAML text of documents

Documents are written in block style: an entry a line, two blanks for each level, a sequence in the
column of the mapping around it. A collection that is the item of a sequence starts on the line of
its hyphen. Empty collections stand in brackets. A name that is long or has several lines is
introduced by a question mark and its value by a colon on a line of its own.

Like the JSON writer, each function writes in front of what follows, the ends of its lines included.
-/
namespace Reconcile.Yaml

/-- YAML leaves out the plus sign of an exponent. -/
def layout : Layout := { plusSign := false }

/-- Where a node stands: alone, after a name in a mapping at `column`, or after the mark of an entry
of a collection at `column`. -/
inductive Place where
  | root
  | afterName (column : Nat)
  | afterMark (column : Nat)

namespace Place

/-- The column of the continued lines of a text. -/
def textColumn : Place → Nat
  | root => 2
  | afterName column | afterMark column => column + 2

def sequenceColumn : Place → Nat
  | root => 0
  | afterName column => column
  | afterMark column => column + 2

def mappingColumn : Place → Nat
  | root => 0
  | afterName column | afterMark column => column + 2

/-- What parts a scalar or an empty collection from what is before it. -/
def gap : Place → List Char
  | root => []
  | afterName _ | afterMark _ => [' ']

/-- What parts a collection from what is before it. -/
def blockGap : Place → List Char
  | root => []
  | afterName _ => ['\n']
  | afterMark _ => [' ']

/-- Does a collection start on a line of its own? -/
def startsLine : Place → Bool
  | afterName _ => true
  | root | afterMark _ => false

end Place

/-- A scalar or an empty collection, and the end of its line. -/
def writeLine (place : Place) (text rest : List Char) : List Char :=
  place.gap ++ (text ++ '\n' :: rest)

/-- A text, and the end of its line unless it has ended it itself. -/
def writeText (place : Place) (text : String) (rest : List Char) : List Char :=
  place.gap ++ (render place.textColumn text ++ if endsLine text then rest else '\n' :: rest)

/-- The blanks before an entry, if it starts a line. -/
def margin (startsLine : Bool) (column : Nat) : List Char :=
  if startsLine then List.replicate column ' ' else []

/-- May a name stand before its colon: on one line, and in at most 128 bytes? -/
def isSimpleName (name : String) : Bool := !name.toList.any isBreak && name.utf8ByteSize ≤ 128

/-- A name up to the place of its value. -/
def writeName (column : Nat) (name : String) : List Char :=
  if isSimpleName name then render (column + 2) name ++ [':']
  else '?' :: writeText (.afterMark column) name (List.replicate column ' ' ++ [':'])

def placeAfter (column : Nat) (name : String) : Place :=
  if isSimpleName name then .afterName column else .afterMark column

mutual

/-- A document at a place, in front of `rest`. -/
def writeNode : Doc → Place → List Char → List Char
  | .null, place, rest => writeLine place ['n', 'u', 'l', 'l'] rest
  | .bool true, place, rest => writeLine place ['t', 'r', 'u', 'e'] rest
  | .bool false, place, rest => writeLine place ['f', 'a', 'l', 's', 'e'] rest
  | .number value, place, rest => writeLine place (value.write layout) rest
  | .string text, place, rest => writeText place text rest
  | .array [], place, rest => writeLine place ['[', ']'] rest
  | .array items, place, rest =>
    place.blockGap ++ writeItems items place.sequenceColumn place.startsLine rest
  | .object [], place, rest => writeLine place ['\x7b', '\x7d'] rest
  | .object fields, place, rest =>
    place.blockGap ++ writeEntries fields place.mappingColumn place.startsLine rest
termination_by structural doc => doc

/-- The items of a sequence; `startsLine` for the first of them. -/
def writeItems : List Doc → (column : Nat) → (startsLine : Bool) → List Char → List Char
  | [], _, _, rest => rest
  | item :: items, column, startsLine, rest =>
    margin startsLine column
      ++ '-' :: writeNode item (.afterMark column) (writeItems items column true rest)
termination_by structural items => items

def writeEntries :
    List (String × Doc) → (column : Nat) → (startsLine : Bool) → List Char → List Char
  | [], _, _, rest => rest
  | (name, value) :: fields, column, startsLine, rest =>
    margin startsLine column
      ++ (writeName column name
        ++ writeNode value (placeAfter column name) (writeEntries fields column true rest))
termination_by structural fields => fields

end

/-- The text of a document, with its final line break. -/
def write (doc : Doc) : String := String.ofList (writeNode doc .root [])

end Reconcile.Yaml
