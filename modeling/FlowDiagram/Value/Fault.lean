/-! # Faults of operations

Why an operation on values has no result.
-/

namespace FlowDiagram

/-- An error that comes from elsewhere, by its kind and its text. -/
structure Raised where
  kind : String
  message : String
  /-- It is of a kind that reading, writing and checking are expected to fail with. -/
  isExpected : Bool
deriving DecidableEq, Repr

/-- A result that is too great. -/
inductive Overflow where
  | infinite
  | pastDoubles
  | pastCounts
  | noRoom
deriving DecidableEq, Repr

def Overflow.message : Overflow → String
  | infinite => "cannot convert float infinity to integer"
  | pastDoubles => "int too large to convert to float"
  | pastCounts => "Python int too large to convert to C ssize_t"
  | noRoom => ""

inductive OperationFault where
  | unknownName
  | wrongType
  | badValue
  | divisionByZero
  | overflow (o : Overflow)
  | raised (e : Raised)
deriving DecidableEq, Repr

namespace OperationFault

/-- The value was of no use: it is of a wrong type, or a bad one of its type. -/
def isMisuse : OperationFault → Bool
  | wrongType => true
  | badValue => true
  | _ => false

def kind : OperationFault → String
  | unknownName => "NameError"
  | wrongType => "TypeError"
  | badValue => "ValueError"
  | divisionByZero => "ZeroDivisionError"
  | overflow .noRoom => "MemoryError"
  | overflow _ => "OverflowError"
  | raised e => e.kind

def message : OperationFault → String
  | overflow o => o.message
  | raised e => e.message
  | _ => ""

/-- The fault is of a kind that reading, writing and checking are expected to fail with. -/
def isExpected : OperationFault → Bool
  | badValue => true
  | raised e => e.isExpected
  | _ => false

end OperationFault

end FlowDiagram
