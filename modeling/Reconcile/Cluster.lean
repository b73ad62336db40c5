import Reconcile.Resource
import Reconcile.Target

/-!
# Fetching from a cluster

A cluster is what it answers when asked: which kinds it serves, and which object of a kind has a
name. `Target.fetch` looks for the kind of the target among those and asks for the object, in a
namespace exactly where the kind has namespaces. An object that is not there is no error. Why a
cluster does not answer is worded by the cluster, from the outermost cause inwards.
-/
namespace Reconcile

/-- A kind of object that a cluster serves. -/
structure Served where
  group : String
  version : String
  kind : String
  namespaced : Bool
  deriving DecidableEq, Repr

/-- An object as it is fetched: with its metadata taken apart, and as a document. -/
structure LiveObject where
  resource : Resource
  /-- The document of the object, or why it cannot be made. -/
  document : Except (List String) Doc
  /-- The writer of the document repeats no name. -/
  formed : ∀ doc, document = .ok doc → doc.WellFormed

structure Cluster where
  /-- The kinds in the order in which they are discovered. -/
  served : Except (List String) (List Served)
  /-- The object of a kind with a name, in a namespace if one is given. -/
  object? : Served → («namespace» : Option String) → (name : String) →
    Except (List String) (Option LiveObject)

/-- Why no answer about an object was had. -/
inductive Unfetched where
  | noClient (causes : List String)
  | notDiscovered (causes : List String)
  | notServed (group version kind : String)
  | noNamespace
  | notGiven (name : String) (causes : List String)
  deriving DecidableEq, Repr

/-- What went wrong, then why. -/
def Unfetched.messages : Unfetched → List String
  | .noClient causes => "building kube client" :: causes
  | .notDiscovered causes => causes
  | .notServed group version kind => ["GVK not found: " ++ group ++ "/" ++ version ++ "/" ++ kind]
  | .noNamespace => ["namespace required for namespaced kind"]
  | .notGiven name causes => ("fetching " ++ name) :: causes

namespace Target

/-- Is this the kind of the target? -/
def isServedAs (target : Target) (served : Served) : Bool :=
  served.group == target.group && served.version == target.version && served.kind == target.kind

/-- The object that the target names, if there is one. -/
def fetch (target : Target) (cluster : Except (List String) Cluster) :
    Except Unfetched (Option LiveObject) := do
  let cluster ← cluster.mapError .noClient
  match (← cluster.served.mapError .notDiscovered).find? target.isServedAs with
  | none => throw (.notServed target.group target.version target.kind)
  | some served =>
    if served.namespaced then
      match target.namespace with
      | some within =>
        (cluster.object? served (some within) target.name).mapError (.notGiven target.name)
      | none => throw .noNamespace
    else (cluster.object? served none target.name).mapError (.notGiven target.name)

end Target

end Reconcile
