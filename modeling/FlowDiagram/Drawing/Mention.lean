import FlowDiagram.Transducer

/-! # What the lines of a drawing mention

The lines of a text in DOT are read one by one.  A line that begins with a quoted id declares a node,
or joins two nodes by an edge.  Besides these there are the lines that begin and end the graph and its
clusters, those that give one of them an attribute, and empty ones; any other line is refused.  An id
is kept as it is written, with its backslashes.
-/

namespace FlowDiagram.Drawing

/-- What a line says. -/
inductive Line where
  | head
  | opening (cluster : String)
  | closing
  | node (id : String)
  | edge (source target : String)
  | assign
  | empty
deriving DecidableEq, Repr

/-- The characters up to the first double mark that no backslash takes, and those after it. -/
def takeQuoted : List Char → Option (List Char × List Char)
  | [] => none
  | '"' :: s => some ([], s)
  | '\\' :: c :: s => (takeQuoted s).map fun (text, rest) => ('\\' :: c :: text, rest)
  | c :: s => (takeQuoted s).map fun (text, rest) => (c :: text, rest)

/-- The id in quotes that comes first, and what follows it. -/
def takeId : List Char → Option (String × List Char)
  | '"' :: s => (takeQuoted s).map fun (text, rest) => (String.ofList text, rest)
  | _ => none

/-- What follows the text that comes first. -/
def after? (first : String) (s : List Char) : Option (List Char) :=
  if first.toList.isPrefixOf s then some (s.drop first.toList.length) else none

namespace Line

/-- The line goes on with the attributes of a node or of an edge. -/
def ofAttributes? (line : Line) (rest : List Char) : Option Line :=
  (after? " [" rest).map fun _ => line

/-- A line that begins with an id. -/
def ofId? (id : String) (rest : List Char) : Option Line :=
  match after? " -> " rest with
  | some rest => (takeId rest).bind fun (target, rest) => (edge id target).ofAttributes? rest
  | none => (node id).ofAttributes? rest

/-- A line that begins with a word: that of a head, or the name of an attribute. -/
def ofWord? (s : List Char) : Option Line :=
  match after? "subgraph " s with
  | some rest => (takeId rest).map fun (id, _) => opening id
  | none =>
    if (after? "strict digraph " s).isSome then some head
    else if (s.dropWhile Char.isAlpha).head? = some '=' then some assign
    else none

/-- A line after the blanks that it begins with. -/
def ofChars? (s : List Char) : Option Line :=
  if s = [] then some empty
  else if s = ['\x7d'] then some closing
  else if s.head? = some '"' then (takeId s).bind fun (id, rest) => ofId? id rest
  else ofWord? s

def read? (line : String) : Option Line := ofChars? (line.toList.dropWhile (· = ' '))

end Line

/-- Where in a drawing a line stands. -/
inductive Place where
  | before
  | graph
  | cluster (id : String)
  | after
deriving DecidableEq, Repr

/-- A cluster, a node with the cluster that it is declared in, or an edge. -/
inductive Mention where
  | cluster (id : String)
  | node (within : Option String) (id : String)
  | edge (source target : String)
deriving DecidableEq, Repr

namespace Mention

def cluster? : Mention → Option String
  | cluster id => some id
  | _ => none

def node? : Mention → Option (Option String × String)
  | node within id => some (within, id)
  | _ => none

def edge? : Mention → Option (String × String)
  | edge source target => some (source, target)
  | _ => none

end Mention

/-- What a line mentions at its place, and the place after it.  A cluster is within no other, and edges
are outside of clusters. -/
def Line.mentions? : Place → Line → Option (List Mention × Place)
  | .before, head => some ([], .graph)
  | .graph, opening id => some ([.cluster id], .cluster id)
  | .graph, node id => some ([.node none id], .graph)
  | .graph, edge source target => some ([.edge source target], .graph)
  | .graph, assign => some ([], .graph)
  | .graph, empty => some ([], .graph)
  | .graph, closing => some ([], .after)
  | .cluster c, node id => some ([.node (some c) id], .cluster c)
  | .cluster c, assign => some ([], .cluster c)
  | .cluster _, closing => some ([], .graph)
  | _, _ => none

def lineReader : Transducer Place String Mention :=
  ⟨fun place line => (Line.read? line).bind (Line.mentions? place)⟩

/-- What the lines of a whole drawing mention. -/
def mentions? (lines : List String) : Option (List Mention) :=
  match lineReader.run .before lines with
  | some (mentions, .after) => some mentions
  | _ => none

end FlowDiagram.Drawing
