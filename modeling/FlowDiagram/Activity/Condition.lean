import FlowDiagram.Text.Blank

/-! # Conditions

The text of a condition states that an attribute has a value.  The attribute is the shortest piece
of one line, from as far left as possible, that an equality sign follows with nothing but blanks in
between; the value is the rest of the line on which the first character after the sign stands that
is not blank.  Both are trimmed, and neither may then be empty.
-/

namespace FlowDiagram

inductive Condition.Value where
  | flag (b : Bool)
  | text (s : String)
deriving DecidableEq, Repr

structure Condition where
  name : String
  value : Condition.Value
deriving DecidableEq, Repr

namespace Condition

/-- The truth values have names; every other text stands for itself. -/
def Value.ofText (s : String) : Value :=
  if s = "True" then .flag true else if s = "False" then .flag false else .text s

/-- What follows an equality sign that only blanks stand before. -/
def afterSign? (s : List Char) : Option (List Char) :=
  match Text.trimLeft s with
  | '=' :: rest => some rest
  | _ => none

/-- The shortest start of the text, on its first line and not empty, that an equality sign
follows, with what follows the sign. -/
def leadingAttribute? : List Char → Option (List Char × List Char)
  | [] => none
  | c :: s =>
    if c = '\n' then none
    else
      match afterSign? s with
      | some rest => some ([c], rest)
      | none => (leadingAttribute? s).map fun (name, rest) => (c :: name, rest)

/-- The leftmost attribute in the text, with what follows its sign. -/
def findAttribute? : List Char → Option (List Char × List Char)
  | [] => none
  | c :: s =>
    match leadingAttribute? (c :: s) with
    | some found => some found
    | none => findAttribute? s

/-- The condition that a text states. -/
def parse? (text : String) : Option Condition := do
  let (before, after) ← findAttribute? text.toList
  let name := Text.trim before
  let value := Text.trim ((Text.trimLeft after).takeWhile (· ≠ '\n'))
  guard (!name.isEmpty && !value.isEmpty)
  some ⟨String.ofList name, .ofText (String.ofList value)⟩

end Condition

end FlowDiagram
