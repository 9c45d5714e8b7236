/-! # Types of values

Values of seven types are known through and through.  A truth value also is a whole number.  A type of
another kind, such as that of dates, is known by its name, by the names of the types that it is a kind
of, and by the one of the seven among them.
-/

namespace FlowDiagram

inductive PlainType where
  | bool | int | float | text | list | tuple | mapping
deriving DecidableEq, Repr

/-- A type of another kind. -/
structure OtherType where
  name : String
  /-- The names of the other types that it is a kind of. -/
  ancestors : List String
  /-- The one of the seven that it is a kind of. -/
  base : Option PlainType
deriving DecidableEq, Repr

inductive ValueType where
  | plain (type : PlainType)
  | other (type : OtherType)
deriving DecidableEq, Repr

namespace PlainType

def all : List PlainType := [bool, int, float, text, list, tuple, mapping]

def name : PlainType → String
  | bool => "bool"
  | int => "int"
  | float => "float"
  | text => "str"
  | list => "list"
  | tuple => "tuple"
  | mapping => "dict"

/-- Every value of the first type is one of the second. -/
def isKindOf (s t : PlainType) : Bool := s = t || (s = bool && t = int)

end PlainType

namespace ValueType

def name : ValueType → String
  | plain t => t.name
  | other t => t.name

/-- Every value of the first type is one of the second. -/
def isKindOf : ValueType → ValueType → Bool
  | plain s, plain t => s.isKindOf t
  | plain _, other _ => false
  | other s, plain t => s.base.any (·.isKindOf t)
  | other s, other t => t.name ∈ s.name :: s.ancestors && t.base.all (s.base = some ·)

end ValueType

end FlowDiagram
