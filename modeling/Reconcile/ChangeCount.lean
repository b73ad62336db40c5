import Reconcile.Doc.Same
import Reconcile.Json.Reader

/-!
# Counting changes

A rough count of what turning one document into another touches. Objects are compared field by
field at every depth; lists position by position without looking inside; any other difference is
one update. A count can be written as a document and read from JSON text.
-/
namespace Reconcile

structure ChangeCount where
  adds : Nat := 0
  updates : Nat := 0
  removes : Nat := 0
  deriving DecidableEq, Repr

namespace ChangeCount

instance : Add ChangeCount :=
  ⟨fun a b => ⟨a.adds + b.adds, a.updates + b.updates, a.removes + b.removes⟩⟩

def isNoop (count : ChangeCount) : Bool :=
  count.adds == 0 && count.updates == 0 && count.removes == 0

mutual

/-- What turning `base` into `target` touches. -/
def between : (target base : Doc) → ChangeCount
  | .object target, .object base =>
    betweenFields target base
      + { removes := (Fields.keys base).countP fun key => !Fields.contains target key }
  | .array target, .array base =>
    { adds := target.length - base.length
      updates := (target.zip base).countP fun pair => !pair.1.same pair.2
      removes := base.length - target.length }
  | target, base => if target.same base then {} else { updates := 1 }
termination_by structural target => target

/-- What the fields of the target add and change. -/
def betweenFields : (target base : List (String × Doc)) → ChangeCount
  | [], _ => {}
  | (key, value) :: rest, base =>
    (match Fields.get? base key with
      | some old => if value.same old then {} else between value old
      | none => { adds := 1 }) + betweenFields rest base
termination_by structural target => target

end

def render (count : ChangeCount) : String :=
  toString count.adds ++ " adds, " ++ toString count.updates ++ " updates, "
    ++ toString count.removes ++ " removes"

/-- A count of at most 64 bits, written as an integer. -/
def natOf? : Doc → Option Nat
  | .number (.int value _) => if 0 ≤ value then some value.toNat else none
  | _ => none

/-- The field that must be there exactly once. -/
def single? (fields : List (String × Doc)) (name : String) : Option Doc :=
  match fields.filter (·.1 == name) with
  | [(_, value)] => some value
  | _ => none

/-- A count is an object that has each of the three fields once, or a list of the three numbers. -/
def ofDoc? : Doc → Option ChangeCount
  | .object fields => do
    return { adds := ← natOf? (← single? fields "adds")
             updates := ← natOf? (← single? fields "updates")
             removes := ← natOf? (← single? fields "removes") }
  | .array [adds, updates, removes] => do
    return { adds := ← natOf? adds, updates := ← natOf? updates, removes := ← natOf? removes }
  | _ => none

/-- Read a count from JSON text. -/
def read? (text : String) : Option ChangeCount :=
  (Json.readRaw? text.length text.toList).bind ofDoc?

end ChangeCount

end Reconcile
