import Reconcile.Fields
import Reconcile.Yaml.Node

/-!
# Aliases and what they stand for

In a `Graph` anchors and aliases carry numbers instead of names, so that an alias can be followed
without knowing where it stands. Anchors are numbered in the order of the text: a new one takes the
count of the names so far. A name may be anchored again, which moves it to its new number but does
not raise the count, so two anchors can share a number; an alias with it then stands for the later
of them. An alias whose name has not been anchored before it makes the graph fail.
-/
namespace Reconcile.Yaml

/-- The number of each anchored name. -/
abbrev Anchors := Fields Nat

/-- The anchors after one more name, and its number. -/
def Anchors.declare (anchors : Anchors) : Option String → Anchors × Option Nat
  | none => (anchors, none)
  | some name => (Fields.insert anchors name anchors.length, some anchors.length)

namespace Node

mutual

/-- Number the anchors and aliases of a node. -/
def number? : Node String → Anchors → Option (Node Nat × Anchors)
  | .alias name, anchors => (Fields.get? anchors name).map fun n => (.alias n, anchors)
  | .scalar anchor tag plain text, anchors =>
    let (anchors, anchor) := anchors.declare anchor
    some (.scalar anchor tag plain text, anchors)
  | .sequence anchor tag items, anchors =>
    let (anchors, anchor) := anchors.declare anchor
    (numberItems? items anchors).map fun (items, anchors) => (.sequence anchor tag items, anchors)
  | .mapping anchor tag entries, anchors =>
    let (anchors, anchor) := anchors.declare anchor
    (numberEntries? entries anchors).map fun (entries, anchors) =>
      (.mapping anchor tag entries, anchors)
termination_by structural node => node

def numberItems? : List (Node String) → Anchors → Option (List (Node Nat) × Anchors)
  | [], anchors => some ([], anchors)
  | item :: rest, anchors =>
    match number? item anchors with
    | none => none
    | some (item, anchors) =>
      (numberItems? rest anchors).map fun (rest, anchors) => (item :: rest, anchors)
termination_by structural items => items

def numberEntries? :
    List (Node String × Node String) → Anchors → Option (List (Node Nat × Node Nat) × Anchors)
  | [], anchors => some ([], anchors)
  | (key, value) :: rest, anchors =>
    match number? key anchors with
    | none => none
    | some (key, anchors) =>
      match number? value anchors with
      | none => none
      | some (value, anchors) =>
        (numberEntries? rest anchors).map fun (rest, anchors) => ((key, value) :: rest, anchors)
termination_by structural entries => entries

end

mutual

/-- The anchored nodes inside, with their labels, in the order of the text. -/
def anchored : Node ι → List (ι × Node ι)
  | .alias _ => []
  | .scalar anchor tag plain text =>
    anchor.toList.map fun label => (label, .scalar anchor tag plain text)
  | .sequence anchor tag items =>
    (anchor.toList.map fun label => (label, .sequence anchor tag items)) ++ anchoredItems items
  | .mapping anchor tag entries =>
    (anchor.toList.map fun label => (label, .mapping anchor tag entries)) ++ anchoredEntries entries
termination_by structural node => node

def anchoredItems : List (Node ι) → List (ι × Node ι)
  | [] => []
  | item :: rest => anchored item ++ anchoredItems rest
termination_by structural items => items

def anchoredEntries : List (Node ι × Node ι) → List (ι × Node ι)
  | [] => []
  | (key, value) :: rest => anchored key ++ anchored value ++ anchoredEntries rest
termination_by structural entries => entries

end

mutual

/-- The size of a node: a scalar and an alias count once, a collection twice, for its start and its
end. -/
def size : Node ι → Nat
  | .alias _ => 1
  | .scalar .. => 1
  | .sequence _ _ items => 2 + sizeOfItems items
  | .mapping _ _ entries => 2 + sizeOfEntries entries
termination_by structural node => node

def sizeOfItems : List (Node ι) → Nat
  | [] => 0
  | item :: rest => size item + sizeOfItems rest
termination_by structural items => items

def sizeOfEntries : List (Node ι × Node ι) → Nat
  | [] => 0
  | (key, value) :: rest => size key + size value + sizeOfEntries rest
termination_by structural entries => entries

end

end Node

structure Graph where
  root : Node Nat
  /-- The anchored nodes, in the order of the text. -/
  anchored : List (Nat × Node Nat)
  /-- How many aliases may be followed while the graph is read. -/
  allowance : Nat

namespace Graph

/-- The graph of a node. Following a hundred times as many aliases as the node has parts is a sign
of aliases that multiply. -/
def ofNode? (node : Node String) : Option Graph :=
  (node.number? []).map fun (root, _) => ⟨root, root.anchored, 100 * root.size⟩

/-- The node that an alias stands for. -/
def target? (graph : Graph) (label : Nat) : Option (Node Nat) := graph.anchored.reverse.lookup label

end Graph

end Reconcile.Yaml
