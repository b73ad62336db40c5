import Reconcile.Failure

/-!
# Things that carry annotations

An annotated thing holds text under names. A document holds it in the object at
`metadata.annotations`, which is made when it is missing or null; the two objects on the way must
not be anything else.
-/
namespace Reconcile

class Annotated (α : Type u) where
  /-- The text of an annotation, if there is one. -/
  annotation? : α → String → Except Failure (Option String)
  /-- Set the text of an annotation. -/
  annotate : α → String → String → Except Failure α
  /-- The thing in a message: version, kind, namespace and name with colons between. -/
  describe : α → String

def description (apiVersion kind «namespace» name : String) : String :=
  apiVersion ++ ":" ++ kind ++ ":" ++ «namespace» ++ ":" ++ name

namespace Doc

def describe (doc : Doc) : String :=
  description (doc.textAt ["apiVersion"]) (doc.textAt ["kind"])
    (doc.textAt ["metadata", "namespace"]) (doc.textAt ["metadata", "name"])

/-- The fields under a name that must hold an object; missing and null hold an empty one. -/
def openField (object name : String) (parent : Fields Doc) : Except Failure (Fields Doc) :=
  match parent.get? name with
  | none | some .null => .ok []
  | some (.object fields) => .ok fields
  | some _ => .error (.metadataMalformed object (name ++ " is not a mapping"))

def annotation? (doc : Doc) (name : String) : Except Failure (Option String) :=
  match doc.getPath? ["metadata", "annotations", name] with
  | none | some .null => .ok none
  | some (.string text) => .ok (some text)
  | some _ =>
    .error (.metadataMalformed doc.describe ("annotation " ++ Text.quoted name ++ " is not a string"))

def annotate (doc : Doc) (name text : String) : Except Failure Doc :=
  match doc with
  | .object root => do
    let metadata ← openField doc.describe "metadata" root
    let annotations ← openField doc.describe "annotations" metadata
    let annotated := Doc.object (annotations.insert name (.string text))
    return .object (Fields.insert root "metadata" (.object (metadata.insert "annotations" annotated)))
  | _ => .error (.metadataMalformed doc.describe "object is not a mapping")

instance : Annotated Doc := ⟨annotation?, annotate, describe⟩

end Doc

end Reconcile
