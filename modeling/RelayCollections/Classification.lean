import RelayCollections.Document
import RelayCollections.Registry
import RelayCollections.Run
import RelayCollections.ScalarTable

namespace RelayCollections

/-!
# Classification

The definitions of a document by the parts they play, and the registry of the names that
can be referred to. One definition may play several parts: connections and edges are told
by their names alone.

* `Document.scalars`, …, `Document.edges` — the definitions that play each part, in order;
* `Document.registry` — the registry of the whole document;
* `classify` — both, as a run that tells what was found.
-/

/-! ### Parts -/

namespace Document

/-- The declared scalars. -/
def scalars (d : Document) : List Definition :=
  d.definitions.filter Definition.isScalar

/-- The declared interfaces. -/
def interfaces (d : Document) : List Definition :=
  d.definitions.filter Definition.isInterface

/-- The declared nodes. -/
def nodes (d : Document) : List ObjectType :=
  d.definitions.filterMap Definition.node?

/-- The definitions named like connections. -/
def connections (d : Document) : List Definition :=
  d.definitions.filter Definition.isConnection

/-- The definitions named like edges. Nothing further is made of them. -/
def edges (d : Document) : List Definition :=
  d.definitions.filter Definition.isEdge

/-- The registry of all interfaces, connections and nodes. -/
def registry (d : Document) : Registry :=
  let withInterfaces := (d.interfaces.map Definition.name).foldl .addPolymorphicTarget {}
  let withConnections :=
    (d.connections.map Definition.name).foldl .addConnection withInterfaces
  (d.nodes.map ObjectType.name).foldl .addRefTarget withConnections

end Document

/-! ### Completion of a registry -/

/-- What there is to tell of a complete registry: each node type that a scalar hides, and
    how many names there are. -/
def Registry.completion (r : Registry) (scalars : ScalarTable) : List Event :=
  (r.refTargets.toList.filter scalars.contains).map .shadowedNode
    ++ [.completedRegistry r.refTargets.size r.polymorphicTargets.size r.aliases.size]

/-- A complete registry, as a run. -/
def Registry.complete (r : Registry) (scalars : ScalarTable) : Run Registry := do
  .tell (r.completion scalars)
  return r

/-! ### Classification -/

/-- The definitions of a document by part, and its registry. -/
structure Classification where
  scalars : List Definition
  interfaces : List Definition
  nodes : List ObjectType
  connections : List Definition
  edges : List Definition
  registry : Registry

/-- What there is to tell of a classification: how many definitions play each part. -/
def Classification.summary (c : Classification) : Event :=
  .classified c.scalars.length c.interfaces.length c.nodes.length c.connections.length
    c.edges.length

/-- The classification of a document. -/
def Document.classification (d : Document) : Classification where
  scalars := d.scalars
  interfaces := d.interfaces
  nodes := d.nodes
  connections := d.connections
  edges := d.edges
  registry := d.registry

/-- The classification of a document, as a run. Classification cannot fail. -/
def classify (d : Document) (scalars : ScalarTable) : Run Classification := do
  let c := d.classification
  .tell [c.summary]
  .tell (c.registry.completion scalars)
  return c

end RelayCollections
