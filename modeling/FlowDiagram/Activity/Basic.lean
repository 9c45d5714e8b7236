import FlowDiagram.Activity.Condition
import FlowDiagram.Ownership.Basic

/-! # Activities of a model

Every activity of a diagram becomes a record: its name, the entity that handles it, whether a
generator feeds it, the conditions on the edges that enter it and the resources it requires.  A
condition that cannot be read is left out and told.  Durations are for the simulation to fill in.
-/

namespace FlowDiagram

/-- One of a group of resources, and how many of them. -/
structure Requirement where
  resourceGroups : List String
  quantity : Nat
deriving DecidableEq, Repr

structure Activity where
  id : String
  handlerType : String
  initial : Bool
  conditions : List Condition
  requirements : List Requirement
deriving DecidableEq, Repr

/-- A type of resource, with a quantity that is filled in later. -/
structure Resource where
  type : String
  group : String
  quantity : Nat
deriving DecidableEq, Repr

/-- The text on an edge that states no condition. -/
structure IgnoredCondition where
  activity : String
  text : String
  edge : String
deriving DecidableEq, Repr

def IgnoredCondition.message (c : IgnoredCondition) : String :=
  c.activity ++ ": ignoring condition " ++ Text.quoted c.text ++ " on edge " ++ Text.quoted c.edge

/-- The requirements of a node: one of each resource it declares, repeats aside. -/
def Node.requirements (n : Node) : List Requirement :=
  (keepFirst n.resources).map fun r => ⟨[r], 1⟩

namespace Diagram

/-- One record for each type of resource that activities declare, in the order of its first
occurrence. -/
def resources (d : Diagram) : List Resource :=
  (keepFirst (d.activities.flatMap Node.resources)).map fun r => ⟨r, r, 0⟩

/-- A generator feeds the node, by an edge of either sort. -/
def isInitial (d : Diagram) (n : Node) : Bool :=
  (d.incoming n.id).any fun e => d.hasKind e.source .generator

/-- The edges into a node that state a condition.  An empty text and `True` state none. -/
def conditionedEdges (d : Diagram) (n : Node) : List Edge :=
  (d.incoming n.id).filter fun e => e.condition ≠ "" && e.condition ≠ "True"

def conditions (d : Diagram) (n : Node) : List Condition :=
  (d.conditionedEdges n).filterMap fun e => Condition.parse? e.condition

def ignoredConditions (d : Diagram) (n : Node) : List IgnoredCondition :=
  (d.conditionedEdges n).filterMap fun e =>
    if (Condition.parse? e.condition).isNone then some ⟨n.name, e.condition, e.id⟩ else none

/-- The record of an activity. -/
def lower (d : Diagram) (owners : OrderedMap String String) (n : Node) : Activity where
  id := n.name
  handlerType := ownerOf owners n.id
  initial := d.isInitial n
  conditions := d.conditions n
  requirements := n.requirements

/-- The records of all activities, in the order in which they are drawn. -/
def lowerAll (d : Diagram) (owners : OrderedMap String String) : List Activity :=
  d.activities.map (d.lower owners)

/-- The conditions that the records leave out, activity by activity. -/
def allIgnoredConditions (d : Diagram) : List IgnoredCondition :=
  d.activities.flatMap d.ignoredConditions

end Diagram

end FlowDiagram
