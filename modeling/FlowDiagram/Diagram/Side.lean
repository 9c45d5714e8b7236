import FlowDiagram.Text.Digit
import FlowDiagram.Text.Split
import FlowDiagram.Value.Basic

/-! # Sides of a node

An edge is attached to a handle.  The name of a handle is the node's id, a side and an index,
joined by hyphens; ids may hold hyphens themselves, so the name is taken apart from its end.  A
handle on a corner names two sides, and the first of them, top or bottom, counts.
-/

namespace FlowDiagram

inductive Side where
  | top | right | bottom | left
deriving DecidableEq, Repr

namespace Side

def name : Side → String
  | top => "top"
  | right => "right"
  | bottom => "bottom"
  | left => "left"

def all : List Side := [top, right, bottom, left]

def ofName? (s : List Char) : Option Side := all.find? fun side => side.name.toList = s

/-- The text ends with a hyphen and the name of the side. -/
def endsName (side : Side) (s : List Char) : Bool := ('-' :: side.name.toList).isSuffixOf s

/-- The side of a handle whose last word names `side` and whose front is `front`. -/
def onCorner (side : Side) (front : List Char) : Side :=
  match side with
  | left | right => if top.endsName front then top else if bottom.endsName front then bottom else side
  | top | bottom => side

/-- The side that the name of a handle gives. -/
def ofHandleName? (handle : List Char) : Option Side := do
  let (named, index) ← Text.splitLast '-' handle
  guard (Text.isIndex index)
  let (front, word) ← Text.splitLast '-' named
  let side ← ofName? word
  some (side.onCorner front)

/-- The side that a handle gives; a handle that is no text gives none. -/
def ofHandle? : Value → Option Side
  | .text handle => ofHandleName? handle.toList
  | _ => none

theorem ofName?_name (side : Side) : ofName? side.name.toList = some side := by
  cases side <;> decide

end Side

end FlowDiagram
