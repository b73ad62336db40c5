/-!
# Paths

Where a value stands inside a document: the names of the fields, and the identities of the elements
of keyed lists, that lead to it from the root. A path is written with each step in brackets, so the
root is empty text. Paths serve messages only.
-/
namespace Reconcile

structure Path where
  steps : List String
  deriving DecidableEq, Repr

namespace Path

def root : Path := ⟨[]⟩

def child (path : Path) (step : String) : Path := ⟨path.steps ++ [step]⟩

def render (path : Path) : String := String.join (path.steps.map fun step => "[" ++ step ++ "]")

end Path

end Reconcile
