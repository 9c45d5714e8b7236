import FlowDiagram.Dot.Token

/-! # Statements of DOT

A text in DOT is a row of statements.  The heads of a graph and of a subgraph end with an opening
brace, which a closing brace answers; a node or an edge has a list of attributes and ends with a
semicolon; an attribute of a graph ends with its value.
-/

namespace FlowDiagram.Dot

/-- Names with values, as they stand between brackets. -/
abbrev Attributes := List (String × Id)

inductive Statement where
  | graph (name : String)
  | subgraph (name : String)
  | close
  | assign (name : String) (value : Id)
  | node (id : String) (attributes : Attributes)
  | edge (source target : String) (attributes : Attributes)
deriving DecidableEq, Repr

/-- The attributes that stand before a closing bracket and a semicolon. -/
def attributes? : List Token → Option Attributes
  | [.id (.word name), .equals, .id value, .closeBracket, .semicolon] => some [(name, value)]
  | .id (.word name) :: .equals :: .id value :: .comma :: rest =>
    (attributes? rest).map ((name, value) :: ·)
  | _ => none

/-- The statement that tokens make up. -/
def Statement.ofTokens? : List Token → Option Statement
  | [.closeBrace] => some .close
  | [.id (.word name), .equals, .id value] => some (.assign name value)
  | [.id (.word "subgraph"), .id (.quoted name), .openBrace] => some (.subgraph name)
  | [.id (.word "strict"), .id (.word "digraph"), .id (.word name), .openBrace] =>
    some (.graph name)
  | .id (.quoted id) :: .openBracket :: rest => (attributes? rest).map (.node id)
  | .id (.quoted source) :: .arrow :: .id (.quoted target) :: .openBracket :: rest =>
    (attributes? rest).map (.edge source target)
  | _ => none

/-- The token ends the statement that the tokens before it begin. -/
def endsStatement : List Token → Token → Bool
  | _, .openBrace => true
  | _, .closeBrace => true
  | _, .semicolon => true
  | [.id _, .equals], .id _ => true
  | _, _ => false

def readToken (begun : List Token) (t : Token) : Option (List Statement × List Token) :=
  if endsStatement begun t then (Statement.ofTokens? (begun ++ [t])).map fun s => ([s], [])
  else some ([], begun ++ [t])

def statementReader : Transducer (List Token) Token Statement := ⟨readToken⟩

/-- The statements of a text that breaks off within none. -/
def statements? (text : String) : Option (List Statement) :=
  match (tokens? text).bind (statementReader.run []) with
  | some (statements, []) => some statements
  | _ => none

end FlowDiagram.Dot
