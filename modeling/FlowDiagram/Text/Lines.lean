import FlowDiagram.Text.Blank

/-! # Lines and words

A text falls into lines, each with the line end that closes it, and a line into words, each with
the blanks after it.
-/

namespace FlowDiagram.Text

/-- The characters that end a line. -/
def lineEnds : List CodeRange :=
  [⟨0xa, 0xd⟩, ⟨0x1c, 0x1e⟩, ⟨0x85, 0x85⟩, ⟨0x2028, 0x2029⟩]

def isLineEnd (c : Char) : Bool := lineEnds.any (·.contains c)

/-- Put a character before the first of some lines. -/
def consFirst (c : Char) : List (List Char) → List (List Char)
  | [] => [[c]]
  | line :: lines => (c :: line) :: lines

/-- The lines of a text with their ends; a carriage return and a line feed are one end. -/
def lines : List Char → List (List Char)
  | [] => []
  | '\r' :: '\n' :: s => ['\r', '\n'] :: lines s
  | c :: s => if isLineEnd c then [c] :: lines s else consFirst c (lines s)

/-- The words of a text with the blanks after them. -/
def words : List Char → List (List Char)
  | [] => []
  | [c] => [[c]]
  | c :: d :: s =>
    if isBlank c && !isBlank d then [c] :: words (d :: s) else consFirst c (words (d :: s))

/-- Line ends as single line feeds. -/
def plainLines : List Char → List Char
  | '\r' :: '\n' :: s => '\n' :: plainLines s
  | '\r' :: s => '\n' :: plainLines s
  | c :: s => c :: plainLines s
  | [] => []

end FlowDiagram.Text
