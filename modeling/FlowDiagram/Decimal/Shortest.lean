import FlowDiagram.Decimal.Binary
import FlowDiagram.Text.Numeral

/-! # The fewest digits

A decimal identifies a double if it lies in the interval of numbers that round to it; the two ends
belong to the interval if the double's count is even.  Of the decimals that identify a double the
one with the fewest digits is taken, then the nearest, then the one with an even last digit.  All
arithmetic is on whole numbers.
-/

namespace FlowDiagram.Decimal

/-- The decimal `coefficient * 10 ^ exponent`. -/
structure Scaled where
  coefficient : Nat
  exponent : Int
deriving Repr, DecidableEq

/-- The power of ten of the first digit of a positive quotient. -/
def firstPower (num den : Nat) : Int :=
  if den ≤ num then ((Text.numeral 10 (num / den)).length : Int) - 1
  else -((Text.numeral 10 ((den - 1) / num)).length : Int)

namespace Binary

/-- Four times the count, so that the ends of the rounding interval are whole. -/
def quarters (b : Binary) : Nat := 4 * b.count

/-- The lower end of the rounding interval, in quarters.  Below a power of two the doubles lie
twice as close. -/
def lowerEnd (b : Binary) : Nat :=
  if b.count = Nat.pow 2 fractionBits && b.power > leastPower then b.quarters - 1
  else b.quarters - 2

def upperEnd (b : Binary) : Nat := b.quarters + 2

/-- A number of quarters, on the scale on which `onScale` puts decimals with exponent `k`. -/
def quartersOnScale (b : Binary) (k : Int) (x : Nat) : Nat :=
  x * Nat.pow 2 (b.power - 2).toNat * Nat.pow 10 (-k).toNat

/-- One unit of decimals with exponent `k`, on the common scale. -/
def unitOnScale (b : Binary) (k : Int) : Nat := Nat.pow 10 k.toNat * Nat.pow 2 (2 - b.power).toNat

/-- The decimal lies in the rounding interval. -/
def identifiedBy (b : Binary) (d : Scaled) : Bool :=
  let x := d.coefficient * b.unitOnScale d.exponent
  let low := b.quartersOnScale d.exponent b.lowerEnd
  let high := b.quartersOnScale d.exponent b.upperEnd
  if b.count % 2 = 0 then low ≤ x && x ≤ high else low < x && x < high

/-- Of the two decimals with exponent `k` around the value, the nearest that identifies it. -/
def onGrid? (b : Binary) (k : Int) : Option Scaled :=
  let value := b.quartersOnScale k b.quarters
  let unit := b.unitOnScale k
  let below : Scaled := ⟨value / unit, k⟩
  let above : Scaled := ⟨value / unit + 1, k⟩
  let rest := value % unit
  match b.identifiedBy below, b.identifiedBy above with
  | false, false => none
  | true, false => some below
  | false, true => some above
  | true, true =>
    if 2 * rest < unit || (2 * rest = unit && below.coefficient % 2 = 0) then some below
    else some above

/-- The decimal with the fewest digits that identifies a positive double.  Seventeen always
suffice. -/
def shortest (b : Binary) : Scaled :=
  let first := firstPower b.numerator b.denominator
  ((List.range 17).findSome? fun n => b.onGrid? (first - Int.ofNat n)).getD ⟨0, 0⟩

end Binary

end FlowDiagram.Decimal
