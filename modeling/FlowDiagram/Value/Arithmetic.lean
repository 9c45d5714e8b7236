import FlowDiagram.Value.Fault
import FlowDiagram.Value.Number

/-! # Arithmetic

Whole numbers are computed exactly; with a double on either side both become doubles, and a
quotient always is one.  Whole quotients round down, so that a remainder has the sign of the
divisor.  Adding joins texts, lists and tuples, and multiplying repeats them.
-/

namespace FlowDiagram

inductive Operator where
  | add | subtract | multiply | divide | floorDivide | modulo
deriving DecidableEq, Repr

namespace Number

/-- The sign bit, which a zero has too. -/
def isNegative (x : Float) : Bool := x.toBits.toNat / Nat.pow 2 63 = 1

/-- A zero with the sign of a double. -/
def zeroLike (x : Float) : Float := if isNegative x then -0.0 else 0.0

/-- The number as a double. -/
def toFloat : Number → Except OperationFault Float
  | int i =>
    let x := Decimal.floatOfInt i
    if x.isFinite then .ok x else .error (.overflow .pastDoubles)
  | float x => .ok x

/-- The exact remainder of a truncated division; it has the sign of the dividend. -/
def truncatedRemainder (x y : Float) : Float :=
  match Decimal.Binary.ofFloat? x, Decimal.Binary.ofFloat? y with
  | some a, some b =>
    let num := a.numerator * b.denominator
    let den := b.numerator * a.denominator
    Decimal.nearestFloat a.negative (num % den) (a.denominator * b.denominator)
  | some _, none => if y == y then x else y
  | none, _ => 0.0 / 0.0

/-- The remainder, with the sign of the divisor. -/
def floatModulo (x y : Float) : Float :=
  let r := truncatedRemainder x y
  if r == 0 then zeroLike y
  else if (y < 0) != (r < 0) then r + y
  else r

/-- The quotient rounded down. -/
def floatFloorDivide (x y : Float) : Float :=
  let r := truncatedRemainder x y
  let q := (x - r) / y
  let q := if r == 0 then q else if (y < 0) != (r < 0) then q - 1 else q
  if q == 0 then zeroLike (x / y)
  else
    let whole := q.floor
    if q - whole > 0.5 then whole + 1 else whole

/-- The double nearest to a quotient of whole numbers. -/
def divideInts (a b : Int) : Except OperationFault Float :=
  let x := Decimal.nearestFloat ((a < 0) != (b < 0)) a.natAbs b.natAbs
  if x.isFinite then .ok x else .error (.overflow .pastDoubles)

def computeInts (o : Operator) (a b : Int) : Except OperationFault Value :=
  match o with
  | .add => .ok (.int (a + b))
  | .subtract => .ok (.int (a - b))
  | .multiply => .ok (.int (a * b))
  | .divide => if b = 0 then .error .divisionByZero else (divideInts a b).map .float
  | .floorDivide => if b = 0 then .error .divisionByZero else .ok (.int (a.fdiv b))
  | .modulo => if b = 0 then .error .divisionByZero else .ok (.int (a.fmod b))

def computeFloats (o : Operator) (x y : Float) : Except OperationFault Value :=
  match o with
  | .add => .ok (.float (x + y))
  | .subtract => .ok (.float (x - y))
  | .multiply => .ok (.float (x * y))
  | .divide => if y == 0 then .error .divisionByZero else .ok (.float (x / y))
  | .floorDivide =>
    if y == 0 then .error .divisionByZero else .ok (.float (floatFloorDivide x y))
  | .modulo => if y == 0 then .error .divisionByZero else .ok (.float (floatModulo x y))

def compute (o : Operator) : Number → Number → Except OperationFault Value
  | int a, int b => computeInts o a b
  | a, b => do computeFloats o (← a.toFloat) (← b.toFloat)

end Number

namespace Value

/-- The greatest number of times, or of items, that can be told. -/
def greatestCount : Nat := Nat.pow 2 63 - 1

/-- Items repeated a number of times, as far as there is room; a negative number counts as zero. -/
def repeated {α : Type} (room : Nat) (items : List α) (times : Int) :
    Except OperationFault (List α) :=
  if greatestCount + 1 < times.natAbs || greatestCount < times.toNat ||
      room < items.length * times.toNat then
    .error (.overflow .noRoom)
  else .ok (List.replicate times.toNat items).flatten

def joined : Value → Value → Except OperationFault Value
  | text s, text t => .ok (text (s ++ t))
  | list xs, list ys => .ok (list (xs ++ ys))
  | tuple xs, tuple ys => .ok (tuple (xs ++ ys))
  | _, _ => .error .wrongType

/-- A text, list or tuple repeated. -/
def times (room : Nat) (v : Value) (n : Int) : Except OperationFault Value :=
  match v with
  | text s => (repeated room s.toList n).map fun cs => text (String.ofList cs)
  | list xs => (repeated room xs n).map list
  | tuple xs => (repeated room xs n).map tuple
  | _ => .error .wrongType

def compute (room : Nat) (o : Operator) (v w : Value) : Except OperationFault Value :=
  match v.number?, w.number? with
  | some a, some b => a.compute o b
  | _, _ =>
    match o with
    | .add => joined v w
    | .multiply =>
      match v.int?, w.int? with
      | some n, _ => w.times room n
      | _, some n => v.times room n
      | _, _ => .error .wrongType
    | _ => .error .wrongType

/-- The number with the other sign. -/
def negated (v : Value) : Except OperationFault Value :=
  match v.number? with
  | some (.int i) => .ok (int (-i))
  | some (.float x) => .ok (float (-x))
  | none => .error .wrongType

end Value

end FlowDiagram
