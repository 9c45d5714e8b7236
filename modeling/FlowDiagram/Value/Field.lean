import FlowDiagram.Text.Quoted
import FlowDiagram.Value.Basic

/-! # Fields of records

A record is a mapping that must have certain fields.  Reading a field fails if it is not there, or
if its value is of no use.
-/

namespace FlowDiagram

/-- A field that must be there is not. -/
structure MissingField where
  name : String
deriving DecidableEq, Repr

def MissingField.message (m : MissingField) : String := Text.quoted m.name

/-- A record cannot be used as it is. -/
inductive RecordError where
  | missing (field : MissingField)
  | notText (name : String)
  | notList (name : String)
  | notMapping (name : String)
  | notOptions (name : String)
deriving DecidableEq, Repr

namespace Value

def require (v : Value) (name : String) : Except MissingField Value :=
  match v.field? name with
  | some w => .ok w
  | none => .error ⟨name⟩

/-- The entries of a mapping; none for any other value. -/
def entriesOrEmpty : Value → List (Value × Value)
  | mapping entries => entries
  | _ => []

def requireField (v : Value) (name : String) : Except RecordError Value :=
  match v with
  | mapping _ => (v.require name).mapError .missing
  | _ => .error (.notMapping name)

/-- The value of a field that need not be there, null if it is not. -/
def optionalField (v : Value) (name : String) : Except RecordError Value :=
  match v with
  | mapping _ => .ok (v.fieldOrNull name)
  | _ => .error (.notOptions name)

def requireText (v : Value) (name : String) : Except RecordError String := do
  match ← v.requireField name with
  | text s => .ok s
  | _ => .error (.notText name)

def requireList (v : Value) (name : String) : Except RecordError (List Value) := do
  match ← v.requireField name with
  | list items => .ok items
  | _ => .error (.notList name)

def requireTexts (v : Value) (name : String) : Except RecordError (List String) := do
  (← v.requireList name).mapM fun
    | text s => .ok s
    | _ => .error (.notList name)

end Value

end FlowDiagram
