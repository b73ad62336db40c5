import Reconcile.Annotated
import Reconcile.Json.Reader
import Reconcile.Merge

/-!
# The marker that holds the snapshot

What was last applied to an object is kept on the object itself, as compact JSON text in one
annotation, the marker. `record` writes it, `retrieve` reads it, `strip` removes it, `stamp` gives a
desired document a snapshot of itself, and `reconcile` is a whole step: merge the desired document
into the observed one against the snapshot found there, and leave the new snapshot in its place.
-/
namespace Reconcile

structure Marker where
  /-- The name of the annotation. -/
  key : String
  deriving DecidableEq, Repr

namespace Marker

def standard : Marker := ⟨"tether.dev/last-applied-configuration"⟩

instance : Inhabited Marker := ⟨standard⟩

/-- Containers may nest this deep in the text of a snapshot. -/
def snapshotDepth : Nat := 127

/-- Keep a snapshot on an object. Null and the empty object are skipped; anything else that is not
an object is refused, because `retrieve` could not read it. -/
def record [Annotated α] (marker : Marker) (object : α) (snapshot : Doc) : Except Failure α :=
  match snapshot with
  | .null | .object [] => .ok object
  | .object _ => Annotated.annotate object marker.key (Json.compact snapshot)
  | other => .error (.snapshotNotObject (Annotated.describe object) marker.key other.shape)

/-- The snapshot kept on an object; none when there is no marker or it is empty. -/
def retrieve [Annotated α] (marker : Marker) (object : α) : Except Failure (Option Doc) := do
  match ← Annotated.annotation? object marker.key with
  | none => return none
  | some text =>
    if text.isEmpty then return none
    else
      match Json.read? snapshotDepth text with
      | some (.object fields) => return some (.object fields)
      | _ => throw (.snapshotUnreadable (Annotated.describe object) marker.key)

/-- Remove the marker from a document and nothing else, or each snapshot would hold the one before
it. -/
def strip (marker : Marker) (doc : Doc) : Doc :=
  match doc.get? "metadata", doc.getPath? ["metadata", "annotations"], doc with
  | some (.object metadata), some (.object annotations), .object root =>
    let kept := Doc.object (Fields.erase annotations marker.key)
    .object (Fields.insert root "metadata" (.object (Fields.insert metadata "annotations" kept)))
  | _, _, _ => doc

/-- A desired document with a snapshot of itself, the marker left out of the snapshot. -/
def stamp (marker : Marker) (desired : Doc) : Except Failure Doc :=
  marker.record (marker.strip desired) (marker.strip desired)

/-- Merge `desired` into `observed` against the snapshot kept there and keep the new one. -/
def reconcile (marker : Marker) (observed desired : Doc) : Except Failure Doc := do
  let lastApplied ← marker.retrieve observed
  let stamped ← marker.stamp desired
  merge observed lastApplied stamped

end Marker

end Reconcile
