import FlowDiagram.Diagram.Basic
import FlowDiagram.Value.Field

/-! # Reading a diagram

A project holds a drawn graph under the name `json`, and a graph holds lists of nodes and edges.
Reading fails only if the data has no such shape.  An entry that cannot be used is skipped, and
each skip is told: nodes without an id, then edges without both ends, then edges of which an end
names no node.
-/

namespace FlowDiagram

/-- Why data is not the data of a diagram. -/
inductive DiagramError where
  | noGraph
  | notMapping (typeName : String)
  | noLists
deriving DecidableEq, Repr

def DiagramError.message : DiagramError → String
  | noGraph => "project data has no \"json\" graph"
  | notMapping typeName => "graph must be a mapping, not " ++ typeName
  | noLists => "graph requires \"nodes\" and \"edges\" lists"

/-- An entry that was skipped; entries without what they need are told by their index. -/
inductive Skip where
  | nodeWithoutId (index : Nat)
  | edgeWithoutEnds (index : Nat)
  | danglingEdge (id : String)
deriving DecidableEq, Repr

def Skip.message : Skip → String
  | nodeWithoutId index => "skipping node #" ++ Text.decimal index ++ " without id"
  | edgeWithoutEnds index => "skipping edge #" ++ Text.decimal index ++ " without endpoints"
  | danglingEdge id => "skipping dangling edge " ++ Text.quoted id

/-- The node that an entry describes; none if it has no id. -/
def Node.read? (raw : Value) : Option Node :=
  match raw.field? "id" with
  | none | some .null => none
  | some idValue =>
    let id := idValue.display
    some
      { id := id
        type := (raw.field? "type").getD (.text "")
        name := ((raw.fieldOrNull "name").orElse (.text id)).display
        data := (raw.fieldOrNull "data").entriesOrEmpty }

/-- The edge that an entry with two ends describes.  A handle on the entry itself goes before one
in its data. -/
def Edge.read (raw : Value) : Except MissingField Edge := do
  let data := Value.mapping (raw.fieldOrNull "data").entriesOrEmpty
  let source ← raw.require "source"
  let target ← raw.require "target"
  return {
    id := ((raw.field? "id").getD (.text "")).display
    source := source.display
    target := target.display
    isDependency := (data.fieldOrNull "isDependency").truthy
    condition :=
      match data.fieldOrNull "condition" with
      | .null => "True"
      | condition => condition.display
    edgeType := data.fieldOrNull "edgeType"
    sourceHandle := (raw.fieldOrNull "sourceHandle").orElse (data.fieldOrNull "sourceHandle")
    targetHandle := (raw.fieldOrNull "targetHandle").orElse (data.fieldOrNull "targetHandle") }

/-- The edge that an entry describes; none unless both ends are there. -/
def Edge.read? (raw : Value) : Option Edge :=
  if (raw.fieldOrNull "source").isNull || (raw.fieldOrNull "target").isNull then none
  else (Edge.read raw).toOption

namespace Diagram

/-- The parts that can be read from a list of entries, and the skips of the others. -/
def readEntries {α : Type} (read? : Value → Option α) (skip : Nat → Skip) (raws : List Value) :
    List α × List Skip :=
  (raws.filterMap read?,
    raws.zipIdx.filterMap fun (raw, index) =>
      if (read? raw).isNone then some (skip index) else none)

/-- The diagram of a graph's data, and what was skipped. -/
def ofGraph (graph : Value) : Except DiagramError (Diagram × List Skip) :=
  match graph with
  | .mapping _ =>
    match graph.fieldOrNull "nodes", graph.fieldOrNull "edges" with
    | .list rawNodes, .list rawEdges =>
      let (nodes, nodeSkips) := readEntries Node.read? .nodeWithoutId rawNodes
      let (edges, edgeSkips) := readEntries Edge.read? .edgeWithoutEnds rawEdges
      let dangling := (danglingEdges nodes edges).map fun e => Skip.danglingEdge e.id
      .ok (ofParts nodes edges, nodeSkips ++ edgeSkips ++ dangling)
    | _, _ => .error .noLists
  | v => .error (.notMapping v.typeName)

/-- The diagram of a project's data, and what was skipped. -/
def ofProject (project : Value) : Except DiagramError (Diagram × List Skip) :=
  match project.field? "json" with
  | some graph => ofGraph graph
  | none => .error .noGraph

end Diagram

end FlowDiagram
