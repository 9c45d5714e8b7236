import FlowDiagram.Settings.Lookup
import FlowDiagram.Value.Builtin

/-! # Overriding settings

A user overrides settings by expressions.  The value of an expression becomes a value of the type
that the setting has; a text need not be an expression at all, and a name stands for itself wherever
what it names is of no use.  `None` unsets a setting that is a text.  How expressions are evaluated is
left to an evaluator, and so is what becomes of values and types of other kinds.
-/

namespace FlowDiagram

/-- The names that an expression may use. -/
abbrev Names := String → Option Value

/-- The functions under their names. -/
def Names.builtins : Names := fun s =>
  (Builtin.all.find? fun f => f.name = s).map .builtin

/-- How expressions are evaluated, and what a machine makes of their values. -/
structure Evaluator where
  /-- The value of an expression under some names; none if it has none. -/
  value? : Names → String → Option Value
  /-- What a type makes of a value, where one of the two is of another kind. -/
  construct : ValueType → Value → Except OperationFault Value
  isOf_construct : ∀ {type v w}, construct type v = .ok w → w.isOf type = true
  /-- One of the seven types makes values of that very type. -/
  type?_construct : ∀ {p v w}, construct (.plain p) v = .ok w → w.type? = some (.plain p)
  /-- The greatest number of items that there is room for in a list. -/
  room : Nat

/-- Why an override fails: a fault of the user, or one that nobody has thought of. -/
inductive OverrideError where
  | settings (e : SettingsError)
  | fault (f : OperationFault)
deriving DecidableEq, Repr

def OverrideError.message : OverrideError → String
  | settings e => e.message
  | fault f => f.message

namespace Settings

variable (ev : Evaluator) (names : Names)

/-- What one of the seven types makes of a value, with room for lists of some length. -/
def made (room : Nat) (v : Value) : PlainType → Except OperationFault Value
  | .bool => .ok (.bool v.truthy)
  | .int => v.toInt
  | .float => v.toFloat
  | .text => .ok (.text v.display)
  | .list => (v.listed room).map .list
  | .tuple => (v.listed room).map .tuple
  | .mapping => v.toMapping room

/-- What a type makes of a value that is not of the type. -/
def converted (type : ValueType) (v : Value) : Except OperationFault Value :=
  match type, v.isKnown with
  | .plain p, true => made ev.room v p
  | type, _ => ev.construct type v

/-- The value of a type that a value is turned into; a value of the type stays as it is. -/
def coerce (type : ValueType) (v : Value) : Except OperationFault Value :=
  if v.isOf type then .ok v else converted ev type v

/-- The value of an expression, or the text of the expression if a text is wanted. -/
def evaluated (type : Option ValueType) (expression : String) : Except SettingsError Value :=
  match ev.value? names expression with
  | some v => .ok v
  | none =>
    if type.any (·.isKindOf (.plain .text)) then .ok (.text expression)
    else .error (.failedEvaluation expression)

/-- The value that an expression is meant to have where a type is wanted: a name stands for itself if
its value is not of the type. -/
def meant (type : ValueType) (expression : String) (v : Value) : Value :=
  if (names expression).isSome && !v.isOf type then .text expression else v

/-- A value as one of a type. -/
def coerced (type : ValueType) (expression : String) (v : Value) : Except OverrideError Value :=
  match coerce ev type (meant names type expression v) with
  | .ok w => .ok w
  | .error f =>
    if f.isMisuse then .error (.settings (.failedCoercion expression type)) else .error (.fault f)

/-- The value of an expression as one of a type, of any type if none is asked for. -/
def evaluate (type : Option ValueType) (expression : String) : Except OverrideError Value := do
  let v ← (evaluated ev names type expression).mapError .settings
  match type with
  | some t => coerced ev names t expression v
  | none => return v

/-- The type that the value of a setting must have; that of an unset one is text. -/
def wantedType (current : Value) : ValueType := current.type?.getD (.plain .text)

/-- The setting may be unset: it is a text, or unset already. -/
def mayBeUnset (current : Value) : Bool := (wantedType current).isKindOf (.plain .text)

/-- The new value that an expression gives a setting. -/
def newValue (current : Value) (expression : String) : Except OverrideError Value :=
  if expression = "None" && mayBeUnset current then .ok .null
  else evaluate ev names (some (wantedType current)) expression

/-- The table after an override. -/
def override (t : Settings) (short expression : String) : Except OverrideError Settings := do
  let (key, current) ← (t.lookup short).mapError .settings
  return t.put key (← newValue ev names current expression)

/-- The table after some overrides, up to the first that fails. -/
def overrideAll : Settings → List (String × String) → Settings × Option OverrideError
  | t, [] => (t, none)
  | t, (short, expression) :: rest =>
    match override ev names t short expression with
    | .ok t' => overrideAll t' rest
    | .error e => (t, some e)

end Settings

end FlowDiagram
