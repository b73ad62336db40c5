import Reconcile.Doc.Basic

/-!
# Equality of documents

Two documents are the same when they hold the same values, whatever the order of the names in
their objects: lists element by element, numbers of one kind and value (so the two zeros of a
double are the same, and `1` and `1.0` are not).
-/
namespace Reconcile.Doc

mutual

def same : Doc → Doc → Bool
  | .null, .null => true
  | .bool a, .bool b => a == b
  | .number a, .number b => a.same b
  | .string a, .string b => a == b
  | .array a, .array b => sameItems a b
  | .object a, .object b => a.length == b.length && sameFields a b
  | _, _ => false
termination_by structural doc => doc

def sameItems : List Doc → List Doc → Bool
  | [], [] => true
  | a :: as, b :: bs => same a b && sameItems as bs
  | _, _ => false
termination_by structural items => items

/-- Is every field of the first object found, with the same value, in the second? -/
def sameFields : List (String × Doc) → List (String × Doc) → Bool
  | [], _ => true
  | (key, a) :: rest, fields =>
    (match Fields.get? fields key with
      | some b => same a b
      | none => false) && sameFields rest fields
termination_by structural fields => fields

end

end Reconcile.Doc
