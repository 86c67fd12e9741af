import Geoscript.Graph.Recording

/-! A recorded graph is shown from its results: only the nodes that a result leads to, each after all that it refers
to. -/

namespace Geoscript.Graph

/-- The nodes met from `i`, each after those that it refers to, before the ones that were met already.
The fuel bounds the depth. -/
def visit (items : Array Item) : Nat → List Nat → Nat → List Nat
  | 0, seen, _ => seen
  | fuel + 1, seen, i =>
    if seen.contains i then seen
    else
      match items[i]? with
      | none => seen
      | some item => i :: item.node.references.foldl (visit items fuel) seen

def reachable (items : Array Item) (roots : List Value) : List Nat :=
  ((Value.referencesList roots).foldl (visit items (items.size + 1)) []).reverse

structure Shown where
  result : Value
  started : List Value
  nodes : List Node

def Recording.shown (r : Recording) (result : Value) : Shown :=
  let result := result.canonical
  let order := reachable r.items (result :: r.started)
  let number (i : Nat) : Nat := order.idxOf i
  { result := result.renumber number
    started := Value.renumberList number r.started
    nodes := order.filterMap fun i => (r.items[i]?).map fun item => item.node.renumber number }

end Geoscript.Graph
