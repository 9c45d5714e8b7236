import FlowDiagram.Activity.Basic
import FlowDiagram.Connection.Basic
import FlowDiagram.Entity.Relationship

/-! # Simulation models

What a diagram compiles to: the relationships between entities, the resources, the activities and
the connections, under the name and description of a scenario.  As an open value a model is a
mapping with fixed field names.
-/

namespace FlowDiagram

structure Model where
  relationships : List Relationship
  resources : List Resource
  activities : List Activity
  connections : List Connection

/-- A model under the scenario it is for.  The two texts about the scenario are kept as given. -/
structure Scenario where
  name : Value
  description : Value
  model : Model

open Value (object)

def Relationship.toValue (r : Relationship) : Value :=
  object [("owner", .text r.owner), ("component", .text r.component)]

def Resource.toValue (r : Resource) : Value :=
  object [("type", .text r.type), ("group", .text r.group), ("quantity", .int r.quantity)]

def Condition.Value.toValue : Condition.Value → FlowDiagram.Value
  | flag b => .bool b
  | text s => .text s

def Condition.toValue (c : Condition) : FlowDiagram.Value :=
  object [("attribute", .text c.name), ("value", c.value.toValue)]

def Requirement.toValue (r : Requirement) : Value :=
  object [("resourceGroups", .list (r.resourceGroups.map .text)), ("quantity", .int r.quantity)]

def Activity.toValue (a : Activity) : Value :=
  object [
    ("id", .text a.id),
    ("handlerType", .text a.handlerType),
    ("attributes", object (if a.initial then [("initial", .bool true)] else [])),
    ("conditions", .list (a.conditions.map Condition.toValue)),
    ("requirements", .list (a.requirements.map Requirement.toValue)),
    ("duration", object [])]

def Connection.toValue (c : Connection) : Value :=
  object [("type", .text c.kind.name), ("from", .text c.source), ("to", .text c.target)]

def Model.toValue (m : Model) : Value :=
  object [
    ("entityRelationships", .list (m.relationships.map Relationship.toValue)),
    ("resources", .list (m.resources.map Resource.toValue)),
    ("activities", .list (m.activities.map Activity.toValue)),
    ("connections", .list (m.connections.map Connection.toValue))]

def Scenario.toValue (s : Scenario) : Value :=
  object [("scenario", s.name), ("description", s.description), ("model", s.model.toValue)]

end FlowDiagram
