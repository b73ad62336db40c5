import Reconcile.Doc.Basic
import Reconcile.Json.Writer

/-!
# Keyed lists

A list of objects is merged element by element when all its elements carry one of a few
conventional fields that identify them. `sharedKey?` finds that field from the names alone: the
first of `identityKeys` that every element of every list has. The value of the field, as text, is
the identity of the element, and `byIdentity` turns a list into fields named by identity.
-/
namespace Reconcile

/-- The fields taken for an identity, the most specific first. Lists in a status are left out on
purpose: whoever reports a status owns all of it. -/
def identityKeys : List String := ["containerPort", "port", "name", "uid", "ip"]

/-- An element of a list that may be an object with named fields. -/
class Named (α : Type u) where
  /-- The names of the fields, if the element is an object. -/
  fieldNames? : α → Option (List String)

instance : Named Doc := ⟨fun doc => doc.asObject?.map Fields.keys⟩

instance {α : Type u} : Named (Fields α) := ⟨fun fields => some fields.keys⟩

/-- The names that all elements have. There are none without an element, nor with one that is not
an object. -/
def commonNames? [Named α] : List α → Option (List String)
  | [] => none
  | first :: rest => do
    rest.foldlM (fun common element =>
      (Named.fieldNames? element).map fun names => common.filter names.contains)
      (← Named.fieldNames? first)

/-- The identity field of several lists taken together. -/
def sharedKey? [Named α] (lists : List (List α)) : Option String :=
  (commonNames? lists.flatten).bind fun common => identityKeys.find? common.contains

/-- Doubles below this magnitude that are integers are written like integers. -/
def identityLimit : Nat := 10 ^ 15

/-- The text of an identity: a string stands for itself and any other value for its JSON text,
except that an integral double is written as the integer it is, so `80` and `80.0` name one
element. -/
def Doc.identityText : Doc → String
  | .string s => s
  | .number (.double d) =>
    match d.toInt? with
    | some whole =>
      if whole.natAbs < identityLimit then String.ofList (Layout.digitsOfInt whole)
      else Json.compact (.number (.double d))
    | none => Json.compact (.number (.double d))
  | doc => Json.compact doc

/-- The identity of an element; a missing field counts as null. -/
def Doc.identity (key : String) (element : Doc) : String :=
  ((element.get? key).getD .null).identityText

/-- A list as fields named by identity. Of the elements with one identity the last stands at the
place of the first. -/
def byIdentity (key : String) (items : List Doc) : Fields Doc :=
  Fields.ofList (items.map fun item => (item.identity key, item))

end Reconcile
