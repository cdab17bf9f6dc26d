import CapsuleLoom.Capsule.Walk

/-!
# Graphs of capsules

Finitely many capsules with links between them.  A capsule may be linked from several others,
and links may run in a circle.

## Main definitions

* `Graph` : capsules with links.
* `Graph.ofArray` : the graph of a list of capsules with the places of their children.
* `Graph.outline` : the graph as something to walk through.

## References

* HubLab API specification, §3 (data model): traversal must end even if a capsule is below itself.
-/

namespace CapsuleLoom

/-- Finitely many capsules with links between them. -/
structure Graph where
  /-- The count of capsules. -/
  size : Nat
  /-- The capsule at a place. -/
  capsule : Fin size → Capsule
  /-- The places that a capsule is linked to, in order. -/
  children : Fin size → List (Fin size)

namespace Graph

/-- The place of an index inside a graph of a size. -/
def place? (size index : Nat) : Option (Fin size) :=
  if h : index < size then some ⟨index, h⟩ else none

/-- The graph of a list of capsules with the indexes of their children; an index outside the
list links nowhere. -/
def ofArray (entries : Array (Capsule × List Nat)) : Graph where
  size := entries.size
  capsule place := entries[place].1
  children place := entries[place].2.filterMap (place? entries.size)

/-- The graph as something to walk through: a place is the same as itself only. -/
def outline (graph : Graph) : Outline (Fin graph.size) :=
  ⟨graph.capsule, graph.children, fun a b => a == b⟩

end Graph

end CapsuleLoom
