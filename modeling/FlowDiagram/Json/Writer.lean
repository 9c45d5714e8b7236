import FlowDiagram.Text.Sorted
import FlowDiagram.Value.Display

/-! # Writing JSON

A value is written over several lines, two blanks deeper for each list or mapping around it, with
the fields of a mapping in the order of their names.  All characters but printable ASCII are
written by the code units they take.
-/

namespace FlowDiagram.Json

/-- A code unit of sixteen bits as an escape. -/
def unitEscape (n : Nat) : List Char := '\\' :: 'u' :: Text.paddedNumeral 16 4 n

/-- The code units of a character, as escapes. -/
def charEscape (c : Char) : List Char :=
  let n := c.toNat
  if n < 0x10000 then unitEscape n
  else unitEscape (0xd800 + (n - 0x10000) / 0x400) ++ unitEscape (0xdc00 + (n - 0x10000) % 0x400)

def writtenChar (c : Char) : List Char :=
  if c = '"' || c = '\\' then ['\\', c]
  else if c = '\n' then ['\\', 'n']
  else if c = '\r' then ['\\', 'r']
  else if c = '\t' then ['\\', 't']
  else if c = '\x0c' then ['\\', 'f']
  else if c = '\x08' then ['\\', 'b']
  else if 0x20 ≤ c.toNat && c.toNat < 0x7f then [c]
  else charEscape c

/-- A text between marks. -/
def quoted (s : String) : String :=
  String.ofList ('"' :: (s.toList.flatMap writtenChar ++ ['"']))

/-- Doubles are laid out as everywhere else, and those without digits have words. -/
def numberLayout : Decimal.Layout :=
  { Value.numberLayout with infinity := "Infinity", notANumber := "NaN" }

/-- A value that holds no others; what JSON has no form for is written as its display text. -/
def simple : Value → String
  | .null => "null"
  | .bool true => "true"
  | .bool false => "false"
  | .int i => Text.signedDecimal i
  | .float x => numberLayout.write x
  | v => quoted v.display

/-- A line at a depth. -/
def lineAt (depth : Nat) (s : String) : String :=
  "\n" ++ String.ofList (List.replicate (2 * depth) ' ') ++ s

/-- Parts between brackets, each on a line one deeper than the brackets. -/
def bracketed (depth : Nat) (opening closing : String) (parts : List String) : String :=
  if parts.isEmpty then opening ++ closing
  else opening ++ ",".intercalate (parts.map (lineAt (depth + 1))) ++ lineAt depth closing

mutual

def writeAt (depth : Nat) : Value → String
  | .list items => bracketed depth "[" "]" (writeItems (depth + 1) items)
  | .tuple items => bracketed depth "[" "]" (writeItems (depth + 1) items)
  | .mapping entries =>
    bracketed depth "\x7b" "\x7d"
      ((Text.sortedBy Prod.fst (writeFields (depth + 1) entries)).map fun f =>
        quoted f.1 ++ ": " ++ f.2)
  | v => simple v

def writeItems (depth : Nat) : List Value → List String
  | [] => []
  | v :: rest => writeAt depth v :: writeItems depth rest

/-- The names of fields with their values as written. -/
def writeFields (depth : Nat) : List (Value × Value) → List (String × String)
  | [] => []
  | (k, v) :: rest => (k.display, writeAt depth v) :: writeFields depth rest

end

/-- A value as JSON, without a line feed at the end. -/
def write (v : Value) : String := writeAt 0 v

end FlowDiagram.Json
