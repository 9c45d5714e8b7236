import FlowDiagram.Model.Basic

/-! # Activities by handler

The ids of activity records, grouped under the entities that handle them, both in the order of
first occurrence.
-/

namespace FlowDiagram

/-- The items under each key, in order. -/
def groupByKey {α : Type} (items : List (String × α)) : OrderedMap String (List α) :=
  items.foldl (fun groups item => groups.push item.1 item.2) .empty

/-- The ids of the activities that each entity handles. -/
def Model.handlerGroups (m : Model) : OrderedMap String (List String) :=
  groupByKey (m.activities.map fun a => (a.handlerType, a.id))

/-- The groups as an open value. -/
def handlerGroupsValue (groups : OrderedMap String (List String)) : Value :=
  Value.object (groups.entries.map fun g => (g.1, .list (g.2.map .text)))

end FlowDiagram
