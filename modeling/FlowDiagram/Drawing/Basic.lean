import FlowDiagram.Model.Grouping

/-! # Drawings of models

A drawing shows the activities of a model in clusters, one for each entity that handles some; the
related entities with the relationships between them; and the connections as arrows.
Relationships and connections may be left out.
-/

namespace FlowDiagram

namespace Drawing

/-- What is shown of an activity: its name, whether it is initial, and the names of the resources
that each requirement accepts. -/
structure Box where
  id : String
  initial : Bool
  requirements : List (List String)
deriving DecidableEq, Repr

/-- The boxes of the activities that an entity handles. -/
structure Cluster where
  handler : String
  boxes : List Box
deriving DecidableEq, Repr

/-- A connection between two activities.  Its kind is a free text, empty if there is none. -/
structure Arrow where
  kind : String
  source : String
  target : String
deriving DecidableEq, Repr

/-- What to show beside the activities. -/
structure Shown where
  connections : Bool
  relationships : Bool
deriving DecidableEq, Repr

def Shown.all : Shown := ⟨true, true⟩

end Drawing

structure Drawing where
  clusters : List Drawing.Cluster
  relationships : List Relationship
  arrows : List Drawing.Arrow
deriving DecidableEq, Repr

namespace Drawing

/-- The related entities, in the order in which the relationships name them. -/
def entities (d : Drawing) : List String :=
  keepFirst (d.relationships.flatMap fun r => [r.owner, r.component])

def Box.ofActivity (a : Activity) : Box :=
  ⟨a.id, a.initial, a.requirements.map (·.resourceGroups)⟩

def Arrow.ofConnection (c : Connection) : Arrow := ⟨c.kind.name, c.source, c.target⟩

end Drawing

/-- The drawing of a model. -/
def Model.drawing (m : Model) (shown : Drawing.Shown) : Drawing where
  clusters :=
    (groupByKey (m.activities.map fun a => (a.handlerType, Drawing.Box.ofActivity a))).entries.map
      fun g => ⟨g.1, g.2⟩
  relationships := if shown.relationships then m.relationships else []
  arrows := if shown.connections then m.connections.map Drawing.Arrow.ofConnection else []

end FlowDiagram
