import Reconcile.Doc.Basic

/-!
# Shapes

The coarse classification of a document: what it is, without what it holds.
-/
namespace Reconcile

inductive Shape where
  | object | array | string | number | bool | null
  deriving DecidableEq, Repr

namespace Shape

def name : Shape → String
  | .object => "object"
  | .array => "array"
  | .string => "string"
  | .number => "number"
  | .bool => "bool"
  | .null => "null"

def all : List Shape := [.object, .array, .string, .number, .bool, .null]

def ofName? (name : String) : Option Shape := all.find? (·.name == name)

end Shape

def Doc.shape : Doc → Shape
  | .null => .null
  | .bool _ => .bool
  | .number _ => .number
  | .string _ => .string
  | .array _ => .array
  | .object _ => .object

end Reconcile
