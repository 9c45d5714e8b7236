import FlowDiagram.Settings.Basic
import FlowDiagram.Text.Split

/-! # Keys in short

A key may be given in short, by a text it ends with.  Of the keys that end with it a single one
whose last part is the whole text goes before a single one of the others; all else is an error.
-/

namespace FlowDiagram

/-- What is wrong with a setting that a user gives. -/
inductive SettingsError where
  | invalidKey (key : String)
  | ambiguousKey (key : String) (candidates : List String)
  | failedEvaluation (expression : String)
  | failedCoercion (expression : String) (type : ValueType)
deriving DecidableEq, Repr

/-- A text between double marks, or between single ones if it starts with a double one. -/
def SettingsError.marked (s : String) : String :=
  let mark := if s.startsWith "\"" then "'" else "\""
  mark ++ s ++ mark

def SettingsError.message : SettingsError → String
  | invalidKey key => "Invalid config key \"" ++ key ++ "\""
  | ambiguousKey key candidates =>
    "Ambiguous config key \"" ++ key ++ "\"; possible matches: " ++ ", ".intercalate candidates
  | failedEvaluation expression => "Failed evaluation of expression \"" ++ expression ++ "\""
  | failedCoercion expression type =>
    "Failed to coerce expression " ++ marked expression ++ " to " ++ type.name

namespace Settings

/-- The part of a key after its last point. -/
def lastPart (key : String) : String :=
  match Text.splitLast '.' key.toList with
  | some (_, last) => String.ofList last
  | none => key

def endsWith (key short : String) : Bool := short.toList.isSuffixOf key.toList

/-- The keys whose last part is the text. -/
def named (t : Settings) (short : String) : List String :=
  t.keys.filter fun k => lastPart k = short

/-- The other keys that end with the text. -/
def ending (t : Settings) (short : String) : List String :=
  t.keys.filter fun k => lastPart k ≠ short && endsWith k short

/-- The key that a text gives in short. -/
def resolve (t : Settings) (short : String) : Except SettingsError String :=
  if (t.get? short).isSome then .ok short
  else
    match t.named short, t.ending short with
    | [k], _ => .ok k
    | _, [k] => .ok k
    | [], [] => .error (.invalidKey short)
    | named, ending => .error (.ambiguousKey short (named ++ ending))

/-- The key that a text gives in short, and its value. -/
def lookup (t : Settings) (short : String) : Except SettingsError (String × Value) := do
  let k ← t.resolve short
  return (k, (t.get? k).getD .null)

end Settings

end FlowDiagram
