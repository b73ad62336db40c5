import Reconcile.Yaml.Graph
import Reconcile.Yaml.Token.Reader
import Reconcile.Yaml.Value

/-!
# Reading values

A text is read in steps: its tokens, the node they spell, the graph of that node, and the value that
the graph unfolds to. A node with a local tag becomes a tagged value, and its content is read as if
it had no tag; the keys of a tagged mapping are read that way too, but not what a key is an alias of.
Collections may nest `maxDepth` deep, which also stops an alias inside the node that it stands for,
and no two keys of a mapping may be the same.
-/
namespace Reconcile.Yaml

def maxDepth : Nat := 128

/-- Drop an exclamation mark that is not all there is. -/
def dropMark : List Char → List Char
  | '!' :: c :: rest => c :: rest
  | name => name

/-- The label of a local tag, which starts with an exclamation mark. -/
def localLabel? (tag : Option String) : Option String :=
  match tag.map String.toList with
  | some ('!' :: name) => some (String.ofList ('!' :: dropMark (dropMark ('!' :: name))))
  | _ => none

def Node.isAlias : Node ι → Bool
  | .alias _ => true
  | _ => false

def Node.tag? : Node ι → Option String
  | .alias _ => none
  | .scalar _ tag _ _ | .sequence _ tag _ | .mapping _ tag _ => tag

/-- Is each value different from those after it? -/
def Value.areDistinct : List Value → Bool
  | [] => true
  | value :: rest => !rest.any value.same && areDistinct rest

/-- Reading counts the aliases that it follows. -/
abbrev Unfolding := StateT Nat Option

namespace Graph

/-- The node itself, or the one that it is an alias of. -/
def follow (graph : Graph) : Node Nat → Unfolding (Node Nat)
  | .alias label => fun followed =>
    if followed < graph.allowance then (graph.target? label).map fun node => (node, followed + 1)
    else none
  | node => pure node

/-- How the nodes inside a node are read: `true` where local tags are passed over. -/
abbrev Inside := Bool → Node Nat → Unfolding Value

/-- The content of a node, `bare` when a tag has been read from it. Where no collection may stand
nothing tells how to read inside one. -/
def content (inside? : Option Inside) (bare : Bool) : Node Nat → Unfolding Value
  | .alias _ => failure
  | .scalar _ tag plain text => fun followed =>
    let scalar? :=
      match tag, bare with
      | some tag, false => Scalar.ofTagged? tag text
      | _, _ => if plain then Scalar.ofPlain? text else some (.text text)
    scalar?.map fun scalar => (.scalar scalar, followed)
  | .sequence _ _ items =>
    match inside? with
    | none => failure
    | some inside => return .sequence (← items.mapM (inside false))
  | .mapping _ _ entries =>
    match inside? with
    | none => failure
    | some inside => do
      let entries ← entries.mapM fun (key, value) => do
        let key ← inside bare key
        let value ← inside false value
        return (key, value)
      if Value.areDistinct (entries.map (·.1)) then return .mapping entries else failure

/-- The value of a node, its local tag included unless the node is `bare`. What an alias stands for
is read with its tag. -/
def valueWith (graph : Graph) (inside? : Option Inside) : Inside := fun bare node => do
  let bare := bare && !node.isAlias
  let node ← graph.follow node
  match localLabel? node.tag?, bare with
  | some label, false => return .tagged label (← content inside? true node)
  | _, bare => content inside? bare node

/-- The value of a node in which collections may nest `depth` deep. -/
def valueAt (graph : Graph) : (depth : Nat) → Inside
  | 0 => graph.valueWith none
  | depth + 1 => graph.valueWith (some (graph.valueAt depth))

def value? (graph : Graph) : Option Value :=
  (graph.valueAt maxDepth false graph.root 0).map (·.1)

end Graph

/-- The value that a text holds; a text without a document holds null. -/
def read? (text : String) : Option Value := do
  let tokens ← Token.ofText? text.toList
  match ← Node.ofTokens? tokens with
  | none => return .scalar .null
  | some node => (← Graph.ofNode? node).value?

end Reconcile.Yaml
