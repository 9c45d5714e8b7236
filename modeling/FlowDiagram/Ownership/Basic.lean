import FlowDiagram.Ownership.Walk

/-! # Ownership

Each activity belongs to an entity, the generator whose items it handles.  A generator claims the
activities that its own flow edges enter, and of several such claims the last stands.  Then each
generator in turn takes the activities that a walk from it comes to and nobody has claimed.
-/

namespace FlowDiagram

/-- Stands for the entity of an activity that belongs to none. -/
def unknownEntity : String := "Unknown"

namespace Diagram

/-- The activities that the flow edges of a node enter, in edge order. -/
def directActivities (d : Diagram) (id : String) : List String :=
  ((d.outgoing id).filter fun e => !e.isDependency && d.hasKind e.target .activity).map (·.target)

/-- The activities that a walk from a node comes to, in the order in which they are drawn. -/
def drawnReachable (d : Diagram) (id : String) : List String :=
  let reached := d.reachableActivities id
  (d.activities.map (·.id)).filter (· ∈ reached)

def directClaims (d : Diagram) : OrderedMap String String :=
  d.generators.foldl (fun owners g =>
    (d.directActivities g.id).foldl (fun owners a => owners.put a g.name) owners) .empty

/-- The name of the entity that each activity belongs to, by the activity's id. -/
def owners (d : Diagram) : OrderedMap String String :=
  d.generators.foldl (fun owners g =>
    (d.drawnReachable g.id).foldl (fun owners a => owners.putNew a g.name) owners) d.directClaims

end Diagram

/-- The entity that an activity belongs to, or `Unknown`. -/
def ownerOf (owners : OrderedMap String String) (activity : String) : String :=
  (owners.get? activity).getD unknownEntity

/-- The entities that some activity belongs to, in the order in which they were assigned. -/
def activeEntities (owners : OrderedMap String String) : List String :=
  keepFirst (owners.values.filter (· ≠ unknownEntity))

end FlowDiagram
