import FlowDiagram.Value.Type

/-! # Open values

What a diagram file, a settings table or an expression can hold.  Numbers keep their kind: a whole
number is exact and of any size, a fraction is a double.  A mapping keeps its entries in order.  A
value of any other kind, such as a date or a set, is known by its face only.
-/

namespace FlowDiagram

/-- The functions that an expression may call. -/
inductive Builtin where
  | abs | bool | dict | float | int | len | list | max | min | range | round | str | tuple
deriving DecidableEq, Repr, Inhabited

namespace Builtin

def all : List Builtin :=
  [abs, bool, dict, float, int, len, list, max, min, range, round, str, tuple]

def name : Builtin → String
  | abs => "abs"
  | bool => "bool"
  | dict => "dict"
  | float => "float"
  | int => "int"
  | len => "len"
  | list => "list"
  | max => "max"
  | min => "min"
  | range => "range"
  | round => "round"
  | str => "str"
  | tuple => "tuple"

/-- The functions that build values of a type, and stand for it. -/
def buildsType : Builtin → Bool
  | abs | len | max | min | round => false
  | _ => true

end Builtin

/-- What a value of another kind shows: its type, its texts and how it counts. -/
structure Face where
  /-- Values of other kinds are equal if this number is the same. -/
  identity : Nat
  type : OtherType
  display : String
  literal : String
  truthy : Bool
  hashable : Bool
deriving DecidableEq, Repr

inductive Value where
  | null
  | bool (b : Bool)
  | int (i : Int)
  | float (x : Float)
  | text (s : String)
  | list (items : List Value)
  | tuple (items : List Value)
  | mapping (entries : List (Value × Value))
  | range (start stop step : Int)
  | builtin (f : Builtin)
  | foreign (face : Face)
deriving Inhabited

namespace Value

/-- The count of whole numbers from `start` on by `step` before `stop`. -/
def rangeLength (start stop step : Int) : Nat :=
  if step > 0 then ((stop - start + step - 1) / step).toNat
  else if step < 0 then ((start - stop - step - 1) / (-step)).toNat
  else 0

/-- A value counts as false if it is null, false, zero or empty. -/
def truthy : Value → Bool
  | null => false
  | bool b => b
  | int i => i ≠ 0
  | float x => !(x == 0)
  | text s => !s.isEmpty
  | list items => !items.isEmpty
  | tuple items => !items.isEmpty
  | mapping entries => !entries.isEmpty
  | range start stop step => rangeLength start stop step ≠ 0
  | builtin _ => true
  | foreign face => face.truthy

/-- The type of a value; null has none. -/
def type? : Value → Option ValueType
  | null => none
  | bool _ => some (.plain .bool)
  | int _ => some (.plain .int)
  | float _ => some (.plain .float)
  | text _ => some (.plain .text)
  | list _ => some (.plain .list)
  | tuple _ => some (.plain .tuple)
  | mapping _ => some (.plain .mapping)
  | range .. => some (.other ⟨"range", [], none⟩)
  | builtin f =>
    some (.other ⟨if f.buildsType then "type" else "builtin_function_or_method", [], none⟩)
  | foreign face => some (.other face.type)

/-- The name of the type of a value, as messages give it. -/
def typeName (v : Value) : String := v.type?.elim "NoneType" ValueType.name

/-- The value is of a type. -/
def isOf (v : Value) (t : ValueType) : Bool := v.type?.any (·.isKindOf t)

mutual

/-- No value of another kind is in the value. -/
def isKnown : Value → Bool
  | list items => areKnown items
  | tuple items => areKnown items
  | mapping entries => entriesAreKnown entries
  | foreign _ => false
  | _ => true

def areKnown : List Value → Bool
  | [] => true
  | v :: rest => v.isKnown && areKnown rest

def entriesAreKnown : List (Value × Value) → Bool
  | [] => true
  | (k, v) :: rest => k.isKnown && v.isKnown && entriesAreKnown rest

end

def isNull : Value → Bool
  | null => true
  | _ => false

/-- The value is this very text. -/
def isText (s : String) : Value → Bool
  | text t => t == s
  | _ => false

def text? : Value → Option String
  | text s => some s
  | _ => none

/-- The value at a text key of a mapping. -/
def entry? (name : String) : List (Value × Value) → Option Value
  | [] => none
  | (k, v) :: rest => if k.isText name then some v else entry? name rest

/-- The value of a field; none if the value is no mapping or lacks the field. -/
def field? (v : Value) (name : String) : Option Value :=
  match v with
  | mapping entries => entry? name entries
  | _ => none

/-- The value of a field, null if there is none. -/
def fieldOrNull (v : Value) (name : String) : Value := (v.field? name).getD null

/-- The first of two values if it counts as true, else the second. -/
def orElse (v w : Value) : Value := if v.truthy then v else w

/-- A mapping from texts to values, in the order given. -/
def object (fields : List (String × Value)) : Value :=
  mapping (fields.map fun f => (text f.1, f.2))

theorem isText_iff {v : Value} {s : String} : v.isText s = true ↔ v = text s := by
  cases v <;> simp [isText]

end Value

end FlowDiagram
