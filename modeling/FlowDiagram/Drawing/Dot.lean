import FlowDiagram.Dot.Text
import FlowDiagram.Drawing.Basic

/-! # Drawings in DOT

Activities and entities become nodes, whose ids differ in their first word.  Clusters may be
filled with the first three colours of a colour scheme in turn.  The kind of a connection gives
its colour; connections of other kinds take three further colours in turn.
-/

namespace FlowDiagram

def Connection.Kind.color : Connection.Kind → String
  | startToInflow => "darkgreen"
  | startToStart => "darkorchid"
  | finishToFinish => "deeppink4"
  | flow => "dodgerblue4"

def Connection.Kind.all : List Connection.Kind :=
  [startToInflow, startToStart, finishToFinish, flow]

namespace Drawing

def activityNode (name : String) : String := Dot.quoted ("activity." ++ Dot.escaped name)

def entityNode (name : String) : String := Dot.quoted ("entity." ++ Dot.escaped name)

/-- A label in bold type, as it stands between angle brackets. -/
def bold (name : String) : String := "<b>" ++ Dot.markup name ++ "</b>"

def Box.label (b : Box) : String :=
  bold b.id ++ (if b.initial then "<br/><i>initial</i>" else "") ++
    "".intercalate (b.requirements.map fun groups =>
      "<br align=\"left\"/>" ++ Dot.markup (", ".intercalate groups))

/-- A statement of a drawing: a cluster with its nodes, the node of an entity, or an edge. -/
inductive Statement where
  | cluster (c : Cluster) (fill : Option String)
  | entity (name : String)
  | owns (r : Relationship)
  | arrow (a : Arrow) (color : String)
deriving DecidableEq, Repr

def indent (line : String) : String := "    " ++ line

def Box.line (b : Box) : String :=
  activityNode b.id ++ " [shape=box,style=rounded,label=<" ++ b.label ++ ">];"

def Cluster.lines (c : Cluster) (fill : Option String) : List String :=
  let filled := match fill with
    | some color => ["style=\"filled\"", "fillcolor=" ++ Dot.quoted color]
    | none => []
  let inner := ["label=<" ++ bold c.handler ++ ">"] ++ filled ++ c.boxes.map Box.line
  ["subgraph " ++ Dot.quoted ("cluster_" ++ Dot.escaped c.handler) ++ " \x7b"] ++
    inner.map indent ++ ["\x7d"]

def edgeLine (source target attributes : String) : String :=
  source ++ " -> " ++ target ++ " [" ++ attributes ++ "];"

def Arrow.attributes (a : Arrow) (color : String) : String :=
  "color=" ++ color ++ ",fontcolor=" ++ color ++
    (if a.kind = "" then "" else ",label=" ++ Dot.quoted a.kind)

def Statement.lines : Statement → List String
  | cluster c fill => c.lines fill
  | entity name => [entityNode name ++ " [shape=ellipse,label=<" ++ bold name ++ ">];"]
  | owns r =>
    [edgeLine (entityNode r.owner) (entityNode r.component) "label=\"owns\",style=dashed"]
  | arrow a color =>
    [edgeLine (activityNode a.source) (activityNode a.target) (a.attributes color)]

/-- The colour of the cluster at a position, in a scheme that may be empty. -/
def fillColor (scheme : String) (index : Nat) : Option String :=
  if scheme = "" then none else some ("/" ++ scheme ++ "/" ++ Text.decimal (index % 3 + 1))

def clusterStatements (d : Drawing) (scheme : String) : List Statement :=
  d.clusters.zipIdx.map fun (c, index) => .cluster c (fillColor scheme index)

def relationshipStatements (d : Drawing) : List Statement :=
  d.entities.map .entity ++ d.relationships.map .owns

/-- The colour of connections whose kind has none, in turn. -/
def otherColor (turn : Nat) : String :=
  match turn % 3 with
  | 0 => "darkslategray"
  | 1 => "goldenrod4"
  | _ => "firebrick4"

/-- The colour of a kind of connection, if it has one. -/
def kindColor? (kind : String) : Option String :=
  (Connection.Kind.all.find? fun k => k.name = kind).map (·.color)

/-- Arrows with their colours, after `turn` of those whose kind has none. -/
def colored (turn : Nat) : List Arrow → List Statement
  | [] => []
  | a :: rest =>
    match kindColor? a.kind with
    | some color => .arrow a color :: colored turn rest
    | none => .arrow a (otherColor turn) :: colored (turn + 1) rest

/-- The lines of a section that follows another; an empty section has none. -/
def laterSection (statements : List Statement) : List String :=
  if statements.isEmpty then []
  else "" :: (statements.flatMap Statement.lines).map indent

/-- The lines of a drawing.  A name with a line feed takes more than one line of the text. -/
def lines (d : Drawing) (scheme : String) : List String :=
  ["strict digraph M \x7b"] ++
    ((d.clusterStatements scheme).flatMap Statement.lines).map indent ++
    laterSection d.relationshipStatements ++ laterSection (colored 0 d.arrows) ++ ["\x7d"]

/-- The text of a drawing. -/
def text (d : Drawing) (scheme : String) : String := "\n".intercalate (d.lines scheme)

end Drawing

end FlowDiagram
