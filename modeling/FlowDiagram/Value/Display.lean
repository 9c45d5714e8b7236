import FlowDiagram.Decimal.Layout
import FlowDiagram.Text.Quoted
import FlowDiagram.Value.Basic

/-! # The text of a value

A value has two texts.  The literal one shows its structure, with texts inside it quoted; the
display text of a text is the text itself, of a value of another kind what it says, and else the
literal.
-/

namespace FlowDiagram.Value

/-- Doubles are written with the fewest digits that identify them, positionally from `0.0001` up
to below `10 ^ 16`, otherwise with a signed exponent of two digits or more. -/
def numberLayout : Decimal.Layout where
  leastPositional := -4
  greatestPositional := 15
  wholeMark := ".0"
  loneMark := ""
  exponentWidth := 2
  infinity := "inf"
  notANumber := "nan"

/-- The literal of a value that holds no others. -/
def simpleLiteral : Value → String
  | null => "None"
  | bool true => "True"
  | bool false => "False"
  | int i => Text.signedDecimal i
  | float x => numberLayout.write x
  | text s => Text.quoted s
  | range start stop step =>
    let ends := [start, stop] ++ if step = 1 then [] else [step]
    "range(" ++ ", ".intercalate (ends.map Text.signedDecimal) ++ ")"
  | builtin f =>
    if f.buildsType then "<class '" ++ f.name ++ "'>" else "<built-in function " ++ f.name ++ ">"
  | list _ => "[]"
  | tuple _ => "()"
  | mapping _ => "\x7b\x7d"
  | foreign face => face.literal

mutual

/-- The literal of a value. -/
def literal : Value → String
  | list items => "[" ++ ", ".intercalate (literals items) ++ "]"
  | tuple [item] => "(" ++ literal item ++ ",)"
  | tuple items => "(" ++ ", ".intercalate (literals items) ++ ")"
  | mapping entries => "\x7b" ++ ", ".intercalate (entryLiterals entries) ++ "\x7d"
  | v => simpleLiteral v

def literals : List Value → List String
  | [] => []
  | v :: rest => literal v :: literals rest

def entryLiterals : List (Value × Value) → List String
  | [] => []
  | (k, v) :: rest => (literal k ++ ": " ++ literal v) :: entryLiterals rest

end

/-- The display text of a value. -/
def display : Value → String
  | text s => s
  | foreign face => face.display
  | v => literal v

end FlowDiagram.Value
