import Reconcile.Doc.Shape
import Reconcile.Path
import Reconcile.Text.Quoted

/-!
# Failures

Why a merge, or keeping a snapshot on an object, can fail. A merge fails only when the last applied
or the desired document has the wrong shape somewhere; the other causes concern the annotation that
holds the snapshot and name the object by its description. `Failure.message` is the one place where
they are worded.
-/
namespace Reconcile

/-- The document, other than the observed one, in which a conflict was found. -/
inductive Side where
  | lastApplied | desired
  deriving DecidableEq, Repr

namespace Side

def name : Side → String
  | .lastApplied => "lastApplied"
  | .desired => "desired"

def ofName? (name : String) : Option Side := [lastApplied, desired].find? (·.name == name)

end Side

inductive Failure where
  /-- A document has another shape than the observed one requires. -/
  | shapeMismatch (side : Side) (path : Path) (expected found : Shape)
  /-- The snapshot has no text. -/
  | snapshotUnwritable (object key : String)
  /-- The snapshot to keep is not an object. -/
  | snapshotNotObject (object key : String) (found : Shape)
  /-- The kept text is not the text of an object. -/
  | snapshotUnreadable (object key : String)
  /-- The object has no place for annotations, or one is not text. -/
  | metadataMalformed (object reason : String)
  deriving DecidableEq, Repr

namespace Failure

def message : Failure → String
  | shapeMismatch side path expected found =>
    side.name ++ path.render ++ ": expecting " ++ expected.name ++ ", got " ++ found.name
  | snapshotUnwritable object key =>
    object ++ ": failed to encode last applied state for annotation " ++ Text.quoted key
  | snapshotNotObject object key found =>
    object ++ ": last applied state for annotation " ++ Text.quoted key
      ++ " must be an object, got " ++ found.name
  | snapshotUnreadable object key =>
    object ++ ": failed to decode last applied state from annotation " ++ Text.quoted key
  | metadataMalformed object reason => object ++ ": cannot carry annotations: " ++ reason

/-- Does the failure concern the text of a snapshot? -/
def isSerialization : Failure → Bool
  | snapshotUnwritable .. | snapshotNotObject .. | snapshotUnreadable .. => true
  | shapeMismatch .. | metadataMalformed .. => false

/-- Does the failure rest on one of the JSON writer or reader? -/
def hasCause : Failure → Bool
  | snapshotUnwritable .. | snapshotUnreadable .. => true
  | _ => false

def path? : Failure → Option Path
  | shapeMismatch _ path _ _ => some path
  | _ => none

end Failure

end Reconcile
