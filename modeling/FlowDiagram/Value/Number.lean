import FlowDiagram.Decimal.Binary
import FlowDiagram.Value.Basic

/-! # Numbers

A number is whole, of any size, or a double; the truth values count as one and zero.  Numbers of
the two kinds compare by their exact values.  What is not a number compares with nothing.
-/

namespace FlowDiagram

inductive Number where
  | int (i : Int)
  | float (x : Float)

namespace Number

/-- The exact value as a quotient; none for the infinities and what is not a number. -/
def quotient? : Number → Option (Int × Nat)
  | int i => some (i, 1)
  | float x => (Decimal.Binary.ofFloat? x).map fun b => (b.signedNumerator, b.denominator)

/-- A double that stands for the number among the infinities. -/
def amongInfinities : Number → Float
  | int _ => 0
  | float x => if x.isFinite then 0 else x

def compareFloats (x y : Float) : Option Ordering :=
  if x < y then some .lt else if x == y then some .eq else if y < x then some .gt else none

def compare (a b : Number) : Option Ordering :=
  match a.quotient?, b.quotient? with
  | some (n, d), some (m, e) => some (Ord.compare (n * e) (m * d))
  | _, _ => compareFloats a.amongInfinities b.amongInfinities

def equal (a b : Number) : Bool := a.compare b == some .eq

def less (a b : Number) : Bool := a.compare b == some .lt

end Number

namespace Value

def ofBool (b : Bool) : Int := if b then 1 else 0

/-- The number that a value is. -/
def number? : Value → Option Number
  | bool b => some (.int (ofBool b))
  | int i => some (.int i)
  | float x => some (.float x)
  | _ => none

/-- The whole number that a value is; doubles are none. -/
def int? : Value → Option Int
  | bool b => some (ofBool b)
  | int i => some i
  | _ => none

end Value

end FlowDiagram
