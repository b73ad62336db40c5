import Reconcile.Annotated

/-!
# Resources with typed metadata

A resource whose metadata has been taken apart: optional type information, optional name and
namespace, and an optional map of annotations that holds nothing but text, so reading and setting
an annotation never fails.
-/
namespace Reconcile

structure TypeMeta where
  apiVersion : String
  kind : String
  deriving DecidableEq, Repr

structure Resource where
  types : Option TypeMeta := none
  name : Option String := none
  «namespace» : Option String := none
  annotations : Option (Fields String) := none
  deriving DecidableEq, Repr

namespace Resource

def describe (resource : Resource) : String :=
  description ((resource.types.map (·.apiVersion)).getD "") ((resource.types.map (·.kind)).getD "")
    (resource.namespace.getD "") (resource.name.getD "")

def annotation? (resource : Resource) (name : String) : Option String :=
  resource.annotations.bind (·.get? name)

def annotate (resource : Resource) (name text : String) : Resource :=
  { resource with annotations := some ((resource.annotations.getD []).insert name text) }

instance : Annotated Resource where
  annotation? resource name := .ok (resource.annotation? name)
  annotate resource name text := .ok (resource.annotate name text)
  describe := describe

/-- The annotations as a document, sorted by name; null when there is no map. -/
def annotationsDoc (resource : Resource) : Doc :=
  match resource.annotations with
  | none => .null
  | some annotations =>
    .object ((annotations.mergeSort fun a b => decide (a.1 ≤ b.1)).map fun entry =>
      (entry.1, .string entry.2))

end Resource

end Reconcile
