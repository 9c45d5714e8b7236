import FlowDiagram.Drawing.Basic
import FlowDiagram.Value.Display
import FlowDiagram.Value.Field

/-! # Reading a compiled model

A compiled model that comes as an open value is drawn, or grouped, from the fields that are
needed.  Of several faults the one that is met first counts: handlers are read before the clusters
in turn, and activities before relationships and connections.
-/

namespace FlowDiagram

/-- The display text of a value that counts as true; else no text. -/
def Value.label (v : Value) : String := if v.truthy then v.display else ""

namespace Drawing

def Box.read (activity : Value) : Except RecordError Box := do
  let id ← activity.requireText "id"
  let initial ← (← activity.requireField "attributes").optionalField "initial"
  let requirements ← activity.requireList "requirements"
  let groups ← requirements.mapM (·.requireTexts "resourceGroups")
  return ⟨id, initial.truthy, groups⟩

def readClusters (activities : List Value) : Except RecordError (List Cluster) := do
  let handled ← activities.mapM fun a => do return (← a.requireText "handlerType", a)
  (groupByKey handled).entries.mapM fun g => do return ⟨g.1, ← g.2.mapM Box.read⟩

def readRelationship (v : Value) : Except RecordError Relationship := do
  return ⟨← v.requireText "owner", ← v.requireText "component"⟩

def Arrow.read (v : Value) : Except RecordError Arrow := do
  let kind ← v.requireField "type"
  return ⟨kind.label, ← v.requireText "from", ← v.requireText "to"⟩

/-- The items that a part of a model lists; a part that counts as false lists none. -/
def readPart {α : Type} (read : Value → Except RecordError α) (model : Value) (name : String) :
    Except RecordError (List α) := do
  if (← model.requireField name).truthy then (← model.requireList name).mapM read else return []

/-- The drawing of a compiled model. -/
def read (output : Value) (shown : Shown) : Except RecordError Drawing := do
  let model ← output.requireField "model"
  let clusters ← readClusters (← model.requireList "activities")
  let relationships ←
    if shown.relationships then readPart readRelationship model "entityRelationships" else .ok []
  let arrows ← if shown.connections then readPart Arrow.read model "connections" else .ok []
  return ⟨clusters, relationships, arrows⟩

end Drawing

/-- The ids of the activities that each entity handles, in a compiled model. -/
def readHandlerGroups (output : Value) : Except RecordError (OrderedMap String (List String)) := do
  let model ← output.requireField "model"
  let handled ← (← model.requireList "activities").mapM fun a => do
    return (← a.requireText "handlerType", ← a.requireText "id")
  return groupByKey handled

end FlowDiagram
