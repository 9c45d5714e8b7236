import FlowDiagram.Value.Arithmetic
import FlowDiagram.Value.Compare
import FlowDiagram.Value.Display
import FlowDiagram.Value.NumberText

/-! # Functions on values

The functions that an expression may call, with values in the order of their places.  Those that
build values of a type also turn other values into that type.
-/

namespace FlowDiagram

namespace Value

/-- The numbers of a range in order. -/
def rangeItems (start stop step : Int) : List Value :=
  (List.range (rangeLength start stop step)).map fun k => int (start + Int.ofNat k * step)

/-- The items that a value holds; a mapping holds its keys, a text its characters. -/
def items : Value → Except OperationFault (List Value)
  | text s => .ok (s.toList.map fun c => text c.toString)
  | list xs => .ok xs
  | tuple xs => .ok xs
  | mapping es => .ok (es.map Prod.fst)
  | range a b c => .ok (rangeItems a b c)
  | _ => .error .wrongType

/-- The items of a value in a list of their own.  A range takes less room than its items do: there
may be none for them, and more than can be counted are never listed. -/
def listed (room : Nat) (v : Value) : Except OperationFault (List Value) :=
  match v with
  | range a b c =>
    if greatestCount < rangeLength a b c then .error (.overflow .pastCounts)
    else if room < rangeLength a b c then .error (.overflow .noRoom)
    else .ok (rangeItems a b c)
  | v => v.items

def length : Value → Except OperationFault Value
  | text s => .ok (int s.length)
  | list xs => .ok (int xs.length)
  | tuple xs => .ok (int xs.length)
  | mapping es => .ok (int es.length)
  | range a b c =>
    let n := rangeLength a b c
    if greatestCount < n then .error (.overflow .pastCounts) else .ok (int n)
  | _ => .error .wrongType

def absolute (v : Value) : Except OperationFault Value :=
  match v.number? with
  | some (.int i) => .ok (int i.natAbs)
  | some (.float x) => .ok (float x.abs)
  | none => .error .wrongType

/-- The whole number that a double is without its places. -/
def truncated (x : Float) : Except OperationFault Int :=
  match Decimal.Binary.ofFloat? x with
  | some b => .ok (b.signedNumerator.tdiv b.denominator)
  | none => .error (if x == x then .overflow .infinite else .badValue)

/-- The whole number nearest to a double, a tie to the even one. -/
def rounded (x : Float) : Except OperationFault Int :=
  match Decimal.Binary.ofFloat? x with
  | some b =>
    let n : Int := Decimal.roundDiv b.numerator b.denominator
    .ok (if b.negative then -n else n)
  | none => .error (if x == x then .overflow .infinite else .badValue)

/-- A whole number rounded to a multiple of a power of ten, a tie to the even multiple. -/
def roundedInt (i : Int) (places : Int) : Int :=
  if 0 ≤ places then i
  else if i.natAbs.log2 + 1 < places.natAbs then 0
  else
    let unit := Nat.pow 10 places.natAbs
    let n : Int := Decimal.roundDiv i.natAbs unit * unit
    if i < 0 then -n else n

/-- A double rounded to a number of places, a tie of its exact value to the even digit. -/
def roundedFloat (x : Float) (places : Int) : Except OperationFault Float :=
  match Decimal.Binary.ofFloat? x with
  | none => .ok x
  | some b =>
    if 323 < places then .ok x
    else if places < -308 then .ok (Decimal.nearestFloat b.negative 0 1)
    else
      let up := Nat.pow 10 places.toNat
      let down := Nat.pow 10 (-places).toNat
      let n := Decimal.roundDiv (b.numerator * up) (b.denominator * down)
      let y := Decimal.nearestFloat b.negative (n * down) up
      if y.isFinite then .ok y else .error (.overflow .pastDoubles)

/-- The item of a list that no other comes before, or that comes after no other. -/
def extreme (greatest : Bool) : Value → List Value → Except OperationFault Value
  | best, [] => .ok best
  | best, v :: rest =>
    match if greatest then less? best v else less? v best with
    | some better => extreme greatest (if better then v else best) rest
    | none => .error .wrongType

def extremeOf (room : Nat) (greatest : Bool) (vs : List Value) : Except OperationFault Value := do
  let candidates ← match vs with
    | [v] => listed room v
    | vs => .ok vs
  match candidates with
  | [] => .error .badValue
  | v :: rest => extreme greatest v rest

def toInt (v : Value) : Except OperationFault Value :=
  match v with
  | text s => (intOfText? 10 s).elim (.error .badValue) (.ok <| int ·)
  | v =>
    match v.number? with
    | some (.int i) => .ok (int i)
    | some (.float x) => (truncated x).map int
    | none => .error .wrongType

def toFloat (v : Value) : Except OperationFault Value :=
  match v with
  | text s => (floatOfText? s).elim (.error .badValue) (.ok <| float ·)
  | v =>
    match v.number? with
    | some n => n.toFloat.map float
    | none => .error .wrongType

/-- The key and the value that an item of two items stands for. -/
def toEntry (room : Nat) (v : Value) : Except OperationFault (Value × Value) := do
  match ← v.listed room with
  | [k, w] => if k.hashable then .ok (k, w) else .error .wrongType
  | _ => .error .badValue

/-- The mapping of the entries that the items of a value stand for.  A number stands for none. -/
def toMapping (room : Nat) (v : Value) : Except OperationFault Value :=
  match v with
  | mapping es => .ok (mapping es)
  | range a b c => if rangeLength a b c = 0 then .ok (mapping []) else .error .wrongType
  | v => do
    let entries ← (← v.items).mapM (toEntry room)
    return mapping (entries.foldl (fun es e => putEntry e.1 e.2 es) [])

/-- The whole number that a text denotes in a base. -/
def toIntIn (v base : Value) : Except OperationFault Value :=
  match v, base.int? with
  | text s, some b =>
    if b = 0 || (2 ≤ b && b ≤ 36) then
      (intOfText? b.toNat s).elim (.error .badValue) (.ok <| int ·)
    else .error .badValue
  | _, _ => .error .wrongType

def roundTo (v places : Value) : Except OperationFault Value :=
  match v.number?, places.int? with
  | some (.int i), some n => .ok (int (roundedInt i n))
  | some (.float x), some n => (roundedFloat x n).map float
  | _, _ => .error .wrongType

def roundWhole (v : Value) : Except OperationFault Value :=
  match v.number? with
  | some (.int i) => .ok (int i)
  | some (.float x) => (rounded x).map int
  | none => .error .wrongType

/-- The range with the ends and the step that some values are. -/
def toRange (vs : List Value) : Except OperationFault Value :=
  match vs.map int? with
  | [some stop] => .ok (range 0 stop 1)
  | [some start, some stop] => .ok (range start stop 1)
  | [some start, some stop, some step] =>
    if step = 0 then .error .badValue else .ok (range start stop step)
  | _ => .error .wrongType

end Value

namespace Builtin

open Value

/-- The value of a function that takes one value; `none` stands for no value. -/
def applyOne (room : Nat) : Builtin → Option Value → Except OperationFault Value
  | abs, some v => v.absolute
  | bool, v => .ok (.bool (v.elim false truthy))
  | dict, v => v.elim (.ok (.mapping [])) (toMapping room)
  | float, v => v.elim (.ok (.float 0)) toFloat
  | int, v => v.elim (.ok (.int 0)) toInt
  | len, some v => v.length
  | list, v => (v.elim (.ok []) (listed room)).map .list
  | round, some v => v.roundWhole
  | str, v => .ok (.text (v.elim "" display))
  | tuple, v => (v.elim (.ok []) (listed room)).map .tuple
  | _, _ => .error .wrongType

/-- The value of a function, with room for lists of some length. -/
def apply (room : Nat) (f : Builtin) (args : List Value) : Except OperationFault Value :=
  match f, args with
  | max, [] => .error .wrongType
  | max, vs => extremeOf room true vs
  | min, [] => .error .wrongType
  | min, vs => extremeOf room false vs
  | range, vs => toRange vs
  | int, [v, base] => toIntIn v base
  | round, [v, .null] => v.roundWhole
  | round, [v, places] => roundTo v places
  | f, [] => f.applyOne room none
  | f, [v] => f.applyOne room (some v)
  | _, _ => .error .wrongType

end Builtin

end FlowDiagram
