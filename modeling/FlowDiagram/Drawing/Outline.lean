import FlowDiagram.Dot.Statement
import FlowDiagram.Drawing.Basic

/-! # Outlines of drawings

What the text of a drawing shows, read back from the text alone: the clusters with the activities in
them, the related entities, the relationships and the arrows.  The first word of an id tells what it
stands for.  How things look does not count, but a statement that no drawing has is refused.
-/

namespace FlowDiagram

structure Outline where
  clusters : List (String × List String)
  entities : List String
  relationships : List Relationship
  arrows : List Drawing.Arrow
deriving DecidableEq, Repr

namespace Outline

/-- One thing that a drawing shows. -/
inductive Part where
  | cluster (handler : String) (activities : List String)
  | entity (name : String)
  | relationship (r : Relationship)
  | arrow (a : Drawing.Arrow)
deriving DecidableEq, Repr

namespace Part

def cluster? : Part → Option (String × List String)
  | cluster handler activities => some (handler, activities)
  | _ => none

def entity? : Part → Option String
  | entity name => some name
  | _ => none

def relationship? : Part → Option Relationship
  | relationship r => some r
  | _ => none

def arrow? : Part → Option Drawing.Arrow
  | arrow a => some a
  | _ => none

end Part

/-- The things that are shown, sort by sort. -/
def ofParts (parts : List Part) : Outline where
  clusters := parts.filterMap Part.cluster?
  entities := parts.filterMap Part.entity?
  relationships := parts.filterMap Part.relationship?
  arrows := parts.filterMap Part.arrow?

/-- Where in a drawing a statement stands. -/
inductive Place where
  | before
  | graph
  | cluster (handler : String) (activities : List String)
  | after
deriving DecidableEq, Repr

def activity? : String → Option String := Dot.nameAfter? "activity."

def entity? : String → Option String := Dot.nameAfter? "entity."

def handler? : String → Option String := Dot.nameAfter? "cluster_"

/-- The kind that the label of an arrow names; an arrow without a label is of no kind. -/
def kind? (attributes : Dot.Attributes) : Option String :=
  match attributes.lookup "label" with
  | none => some ""
  | some label =>
    match label with
    | .quoted text => Dot.nameAfter? "" text
    | _ => none

/-- The relationship or the arrow that an edge stands for. -/
def edge? (source target : String) (attributes : Dot.Attributes) : Option Part :=
  match activity? source, activity? target, entity? source, entity? target with
  | some s, some t, _, _ => (kind? attributes).map fun kind => .arrow ⟨kind, s, t⟩
  | _, _, some owner, some component => some (.relationship ⟨owner, component⟩)
  | _, _, _, _ => none

def readStatement : Place → Dot.Statement → Option (List Part × Place)
  | .before, .graph _ => some ([], .graph)
  | .graph, .subgraph id => (handler? id).map fun handler => ([], .cluster handler [])
  | .graph, .node id _ => (entity? id).map fun name => ([.entity name], .graph)
  | .graph, .edge source target attributes =>
    (edge? source target attributes).map fun part => ([part], .graph)
  | .graph, .close => some ([], .after)
  | .cluster handler activities, .assign _ _ => some ([], .cluster handler activities)
  | .cluster handler activities, .node id _ =>
    (activity? id).map fun name => ([], .cluster handler (activities ++ [name]))
  | .cluster handler activities, .close => some ([.cluster handler activities], .graph)
  | _, _ => none

def reader : Transducer Place Dot.Statement Part := ⟨readStatement⟩

/-- The outline that a text in DOT gives. -/
def read? (text : String) : Option Outline :=
  match (Dot.statements? text).bind (reader.run .before) with
  | some (parts, .after) => some (ofParts parts)
  | _ => none

end Outline

end FlowDiagram
