import Reconcile.Yaml.Reader

/-!
# Reading documents within limits

A document is read from YAML text, of which JSON is a part. A text with more bytes than the limit is
not looked at; a document is refused when counting its nodes reaches the limit, and the count stops
there. A limit can be given as text, and a text that is no number counts as not given.
-/
namespace Reconcile

/-- Why a text is not taken as a document. -/
inductive Refusal where
  | tooLarge (maxBytes : Nat)
  | notYaml
  | notJson
  | tooComplex (maxNodes : Nat)
  deriving DecidableEq, Repr

def Refusal.message : Refusal → String
  | .tooLarge maxBytes => "document too large (>" ++ toString maxBytes ++ " bytes)"
  | .notYaml => "parsing YAML"
  | .notJson => "converting YAML to JSON"
  | .tooComplex maxNodes => "document too complex (>" ++ toString maxNodes ++ " nodes)"

structure Limits where
  maxBytes : Nat := 1000000
  maxNodes : Nat := 100000
  deriving DecidableEq, Repr

namespace Limits

/-- A limit of at most 64 bits in decimal digits, with or without a plus sign. -/
def ofText? (text : String) : Option Nat :=
  let run := match text.toList with
    | '+' :: rest => rest
    | run => run
  if run.isEmpty || !run.all Char.isDigit then none
  else
    let limit := Decimal.valueOfDigits run
    if limit < 2 ^ 64 then some limit else none

/-- The limits given as texts, each with its default. -/
def ofTexts (maxBytes maxNodes : Option String) : Limits where
  maxBytes := (maxBytes.bind ofText?).getD ({} : Limits).maxBytes
  maxNodes := (maxNodes.bind ofText?).getD ({} : Limits).maxNodes

end Limits

namespace Doc

mutual

/-- Count the nodes of a document on from `count`, but not past `limit`. -/
def countNodes (limit : Nat) : Doc → (count : Nat) → Nat
  | .array items, count => if limit ≤ count then count else countItems limit items (count + 1)
  | .object fields, count => if limit ≤ count then count else countFields limit fields (count + 1)
  | _, count => if limit ≤ count then count else count + 1
termination_by structural doc => doc

def countItems (limit : Nat) : List Doc → Nat → Nat
  | [], count => count
  | item :: rest, count =>
    if limit ≤ count then count else countItems limit rest (countNodes limit item count)
termination_by structural items => items

def countFields (limit : Nat) : List (String × Doc) → Nat → Nat
  | [], count => count
  | (_, value) :: rest, count =>
    if limit ≤ count then count else countFields limit rest (countNodes limit value count)
termination_by structural fields => fields

end

end Doc

namespace Limits

/-- Does counting the nodes of a document reach the limit? -/
def isExceededBy (limits : Limits) (doc : Doc) : Bool :=
  limits.maxNodes ≤ doc.countNodes limits.maxNodes 0

/-- The document that a text holds. -/
def readDoc (limits : Limits) (text : String) : Except Refusal Doc := do
  if limits.maxBytes < text.utf8ByteSize then throw (.tooLarge limits.maxBytes)
  let some value := Yaml.read? text | throw .notYaml
  let some doc := value.toDoc? | throw .notJson
  if limits.isExceededBy doc then throw (.tooComplex limits.maxNodes)
  return doc

end Limits

end Reconcile
