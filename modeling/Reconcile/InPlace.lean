import Reconcile.Marker

/-!
# Recording in place

A caller may hold an object and have a snapshot recorded on it where it stands. Recording then works
its way down to the annotations and makes what is missing on the way, one level after the other, and
whatever it has done by the time it fails stays done: the caller is left with the object as it is by
then. `editPart` is work on a part of what is held, `enterField` the step down to an object under a
name.
-/
namespace Reconcile

/-- Work on something that is held. -/
abbrev Edit (σ : Type) (α : Type) := EStateM Failure σ α

/-- Work on a part of what is held. The part is put back as the work leaves it, failed or not. -/
def editPart (part : τ) (putBack : τ → σ → σ) (work : Edit τ α) : Edit σ α := fun whole =>
  match work.run part with
  | .ok value left => .ok value (putBack left whole)
  | .error failure left => .error failure (putBack left whole)

namespace Doc

/-- The object under a name. A missing entry is made and holds null, and null becomes an empty
object, before it is known whether there is an object. -/
def enterField (object name : String) : Edit (Fields Doc) (Fields Doc) := do
  unless (← get).contains name do
    modify (·.insert name .null)
  if (← get).get? name = some .null then
    modify (·.insert name (.object []))
  match (← get).get? name with
  | some (.object fields) => return fields
  | _ => throw (.metadataMalformed object (name ++ " is not a mapping"))

/-- Work on the object under a name. -/
def editField (object name : String) (work : Edit (Fields Doc) Unit) : Edit (Fields Doc) Unit := do
  let fields ← enterField object name
  editPart fields (fun left parent => parent.insert name (.object left)) work

def annotateInPlace (name text : String) : Edit Doc Unit := do
  match ← get with
  | .object root =>
    let object := (Doc.object root).describe
    editPart root (fun left _ => .object left)
      (editField object "metadata"
        (editField object "annotations" (modify (·.insert name (.string text)))))
  | other => throw (.metadataMalformed other.describe "object is not a mapping")

end Doc

/-- Keep a snapshot on an object that is held. -/
def Marker.recordInPlace (marker : Marker) (snapshot : Doc) : Edit Doc Unit := do
  match snapshot with
  | .null | .object [] => return
  | .object _ => Doc.annotateInPlace marker.key (Json.compact snapshot)
  | other => throw (.snapshotNotObject (← get).describe marker.key other.shape)

end Reconcile
