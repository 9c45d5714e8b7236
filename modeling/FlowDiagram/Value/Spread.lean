import FlowDiagram.Text.Lines
import FlowDiagram.Text.Sorted
import FlowDiagram.Value.Display

/-! # Literals over several lines

A literal that does not fit into a line of eighty columns is spread over several: a list or a
mapping has one item on each line, and a text is cut after line ends and between words into pieces
that stand below each other.  Mappings have their keys in order.
-/

namespace FlowDiagram.Value

def lineWidth : Nat := 80

mutual

/-- The value with the entries of all mappings in the order of their keys. -/
def sortKeys : Value → Value
  | list items => list (sortKeysAll items)
  | tuple items => tuple (sortKeysAll items)
  | mapping entries => mapping (Text.sortedBy (·.1.display) (sortKeysEntries entries))
  | v => v

def sortKeysAll : List Value → List Value
  | [] => []
  | v :: rest => sortKeys v :: sortKeysAll rest

def sortKeysEntries : List (Value × Value) → List (Value × Value)
  | [] => []
  | (k, v) :: rest => (k, sortKeys v) :: sortKeysEntries rest

end

/-- Whether a piece fits into a line, from a column on and with room after it. -/
def fits (indent after : Nat) (piece : String) : Bool := piece.length + indent + after ≤ lineWidth

def quotedPiece (s : List Char) : String := Text.quoted (String.ofList s)

/-- Words packed into pieces, each as long as fits; `current` is the piece so far, and there must
be room after the last one. -/
def packWords (indent after : Nat) : (current : List Char) → List (List Char) → List String
  | current, [] => if current.isEmpty then [] else [quotedPiece current]
  | current, word :: rest =>
    let room := if rest.isEmpty then after else 0
    if fits indent room (quotedPiece (current ++ word)) then
      packWords indent after (current ++ word) rest
    else
      (if current.isEmpty then [] else [quotedPiece current]) ++ packWords indent after word rest

/-- The pieces of some lines, with room after the last one. -/
def linePieces (indent after : Nat) : List (List Char) → List String
  | [] => []
  | line :: rest =>
    let room := if rest.isEmpty then after else 0
    (if fits indent room (quotedPiece line) then [quotedPiece line]
      else packWords indent room [] (Text.words line)) ++ linePieces indent after rest

def lineBreak (indent : Nat) : String := "\n" ++ String.ofList (List.replicate indent ' ')

/-- A text cut into pieces below each other. -/
def spreadText (indent after : Nat) (s : String) : String :=
  match linePieces indent after (Text.lines s.toList) with
  | [] => Text.quoted s
  | [_] => Text.quoted s
  | pieces => (lineBreak indent).intercalate pieces

def spreadItems (indent : Nat) (opening closing : String) (items : List String) : String :=
  opening ++ ("," ++ lineBreak indent).intercalate items ++ closing

mutual

/-- A literal from a column on, with room after it. -/
def spreadFrom (indent after : Nat) : Value → String
  | text s => if fits indent after (Text.quoted s) then Text.quoted s else spreadText indent after s
  | list items =>
    let whole := literal (list items)
    if fits indent after whole then whole
    else spreadItems (indent + 1) "[" "]" (spreadAll (indent + 1) (after + 1) items)
  | tuple items =>
    let whole := literal (tuple items)
    let closing := if items.length = 1 then ",)" else ")"
    if fits indent after whole then whole
    else spreadItems (indent + 1) "(" closing (spreadAll (indent + 1) (after + closing.length) items)
  | mapping entries =>
    let whole := literal (mapping entries)
    if fits indent after whole then whole
    else spreadItems (indent + 1) "\x7b" "\x7d" (spreadEntries (indent + 1) (after + 1) entries)
  | v => literal v

def spreadAll (indent after : Nat) : List Value → List String
  | [] => []
  | v :: rest => spreadFrom indent (if rest.isEmpty then after else 1) v :: spreadAll indent after rest

def spreadEntries (indent after : Nat) : List (Value × Value) → List String
  | [] => []
  | (k, v) :: rest =>
    let name := literal k ++ ": "
    (name ++ spreadFrom (indent + name.length) (if rest.isEmpty then after else 1) v) ::
      spreadEntries indent after rest

end

/-- The literal of a value, spread over lines and with a line feed at the end. -/
def spread (v : Value) : String := spreadFrom 0 0 v.sortKeys ++ "\n"

end FlowDiagram.Value
