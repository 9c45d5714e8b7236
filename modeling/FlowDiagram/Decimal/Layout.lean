import FlowDiagram.Decimal.Shortest

/-! # The text of a number

A layout says how digits are written: where positional notation ends, how an exponent looks,
and how the values without digits are written.
-/

namespace FlowDiagram.Decimal

structure Layout where
  /-- The least and greatest power of the first digit that is written positionally. -/
  leastPositional : Int
  greatestPositional : Int
  /-- What follows the digits of a whole number in positional notation. -/
  wholeMark : String
  /-- What follows the first digit if it is the only one before an exponent. -/
  loneMark : String
  exponentWidth : Nat
  infinity : String
  notANumber : String

/-- The decimal without zeros at its end. -/
def Scaled.digits (d : Scaled) : List Char :=
  ((Text.numeral 10 d.coefficient).reverse.dropWhile (· == '0')).reverse

def Scaled.firstPower (d : Scaled) : Int :=
  d.exponent + (Text.numeral 10 d.coefficient).length - 1

namespace Layout

def positional (l : Layout) (digits : List Char) (first : Int) : List Char :=
  if first < 0 then '0' :: '.' :: (List.replicate (-first - 1).toNat '0' ++ digits)
  else
    let whole := first.toNat + 1
    let left := digits.take whole ++ List.replicate (whole - digits.length) '0'
    let right := digits.drop whole
    if right.isEmpty then left ++ l.wholeMark.toList else left ++ '.' :: right

def withExponent (l : Layout) (digits : List Char) (first : Int) : List Char :=
  let sign := if first < 0 then '-' else '+'
  let fraction := match digits.drop 1 with
    | [] => l.loneMark.toList
    | rest => '.' :: rest
  digits.take 1 ++ fraction ++
    'e' :: sign :: Text.paddedNumeral 10 l.exponentWidth first.natAbs

/-- The digits of a decimal laid out. -/
def arrange (l : Layout) (d : Scaled) : List Char :=
  let first := d.firstPower
  if l.leastPositional ≤ first && first ≤ l.greatestPositional then l.positional d.digits first
  else l.withExponent d.digits first

/-- The text of a double. -/
def write (l : Layout) (x : Float) : String :=
  match Binary.ofFloat? x with
  | some b =>
    let digits := if b.count = 0 then '0' :: l.wholeMark.toList else l.arrange b.shortest
    String.ofList (if b.negative then '-' :: digits else digits)
  | none =>
    if x == x then (if x < 0 then "-" ++ l.infinity else l.infinity) else l.notANumber

end Layout

end FlowDiagram.Decimal
