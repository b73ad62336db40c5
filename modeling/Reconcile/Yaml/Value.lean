import Reconcile.Json.Writer
import Reconcile.Yaml.Scalar

/-!
# The values of YAML

A value is a scalar, a sequence, a mapping from values to values, or a value with a local tag.
`Value.same` is equality of values up to the order of mappings. `Value.toDoc?` makes a document of a
value if every key in it is a boolean, a finite number or text: keys become their text as in JSON, a
tagged value becomes an object with the tag as its one name, and the numbers that are not finite
become null.
-/
namespace Reconcile.Yaml

inductive Value where
  | scalar (value : Scalar)
  | sequence (items : List Value)
  | mapping (entries : List (Value × Value))
  | tagged (label : String) (value : Value)
  deriving Inhabited, Repr

/-- Equality of scalars: numbers of one kind by value. -/
def Scalar.same : Scalar → Scalar → Bool
  | .number a, .number b => a.same b
  | a, b => a == b

namespace Value

mutual

def same : Value → Value → Bool
  | .scalar a, .scalar b => a.same b
  | .sequence a, .sequence b => sameItems a b
  | .mapping a, .mapping b => a.length == b.length && sameEntries a b
  | .tagged l a, .tagged m b => l == m && same a b
  | _, _ => false
termination_by structural value => value

def sameItems : List Value → List Value → Bool
  | [], [] => true
  | a :: as, b :: bs => same a b && sameItems as bs
  | _, _ => false
termination_by structural items => items

/-- Is every entry of the first mapping an entry of the second? -/
def sameEntries : List (Value × Value) → List (Value × Value) → Bool
  | [], _ => true
  | (key, value) :: rest, entries =>
    entries.any (fun entry => same key entry.1 && same value entry.2) && sameEntries rest entries
termination_by structural entries => entries

end

/-- The name that a key becomes. -/
def name? : Value → Option String
  | .scalar value => value.keyText? Json.layout
  | _ => none

def docOfScalar : Scalar → Doc
  | .bool value => .bool value
  | .number value => .number value
  | .text value => .string value
  | .null | .infinite _ | .nan => .null

mutual

def toDoc? : Value → Option Doc
  | .scalar value => some (docOfScalar value)
  | .sequence items => (toDocs? items).map .array
  | .mapping entries => (toFields? entries).map fun fields => .object (Fields.ofList fields)
  | .tagged label value => (toDoc? value).map fun doc => .object [(label, doc)]
termination_by structural value => value

def toDocs? : List Value → Option (List Doc)
  | [] => some []
  | item :: rest =>
    match toDoc? item, toDocs? rest with
    | some doc, some docs => some (doc :: docs)
    | _, _ => none
termination_by structural items => items

/-- The entries in their order, names that fall together kept apart. -/
def toFields? : List (Value × Value) → Option (List (String × Doc))
  | [] => some []
  | (key, value) :: rest =>
    match name? key, toDoc? value, toFields? rest with
    | some name, some doc, some fields => some ((name, doc) :: fields)
    | _, _, _ => none
termination_by structural entries => entries

end

end Value

end Reconcile.Yaml
