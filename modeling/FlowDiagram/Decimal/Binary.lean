/-! # Binary fractions

A finite double is a whole number of units, each a power of two.  Reading takes the sign, the
count and the power off the bits; writing rounds a quotient of whole numbers to the nearest
double, a tie to the even count.
-/

namespace FlowDiagram.Decimal

/-- The exact value of a finite double: `count` units of `2 ^ power`, negated if `negative`. -/
structure Binary where
  negative : Bool
  count : Nat
  power : Int
deriving Repr, DecidableEq

namespace Binary

def fractionBits : Nat := 52

/-- The power of two of the smallest unit. -/
def leastPower : Int := -1074

/-- The bits of infinity without a sign. -/
def infinityBits : Nat := 0x7ff * Nat.pow 2 fractionBits

/-- The exact value of a double; none for the infinities and what is not a number. -/
def ofFloat? (x : Float) : Option Binary :=
  let bits := x.toBits.toNat
  let negative := bits / Nat.pow 2 63 = 1
  let exponent : Nat := bits / Nat.pow 2 fractionBits % Nat.pow 2 11
  let fraction := bits % Nat.pow 2 fractionBits
  if exponent = 0x7ff then none
  else if exponent = 0 then some ⟨negative, fraction, leastPower⟩
  else some ⟨negative, fraction + Nat.pow 2 fractionBits, exponent + leastPower - 1⟩

/-- The value without its sign, as a quotient. -/
def numerator (b : Binary) : Nat := b.count * Nat.pow 2 b.power.toNat

def denominator (b : Binary) : Nat := Nat.pow 2 (-b.power).toNat

/-- The signed numerator. -/
def signedNumerator (b : Binary) : Int := if b.negative then -(b.numerator : Int) else b.numerator

end Binary

/-- The whole number nearest to a quotient, a tie to the even one. -/
def roundDiv (num den : Nat) : Nat :=
  let q := num / den
  let r := num % den
  if 2 * r < den || (2 * r = den && q % 2 = 0) then q else q + 1

/-- The double nearest to a quotient of whole numbers, a tie to the even count of units; past the
largest double, infinity. -/
def nearestFloat (negative : Bool) (num den : Nat) : Float :=
  let signBits := if negative then Nat.pow 2 63 else 0
  if num = 0 || den = 0 then Float.ofBits (UInt64.ofNat signBits)
  else
    let guess : Int := (num.log2 : Int) - den.log2
    let below := num * Nat.pow 2 (-guess).toNat < den * Nat.pow 2 guess.toNat
    let exponent := if below then guess - 1 else guess
    let power := max (exponent - Binary.fractionBits) Binary.leastPower
    let count := roundDiv (num * Nat.pow 2 (-power).toNat) (den * Nat.pow 2 power.toNat)
    let bits := (power - Binary.leastPower).toNat * Nat.pow 2 Binary.fractionBits + count
    Float.ofBits (UInt64.ofNat (signBits + min bits Binary.infinityBits))

/-- The double nearest to a whole number. -/
def floatOfInt (i : Int) : Float := nearestFloat (i < 0) i.natAbs 1

/-- The double nearest to `digits` times a power of ten.  Powers outside the range that doubles
span are not computed. -/
def floatOfDecimal (negative : Bool) (digits : Nat) (exponent : Int) : Float :=
  let width := (digits.log2 : Int) / 3 + 1
  if digits = 0 || exponent + width < -400 then nearestFloat negative 0 1
  else if exponent > 400 then nearestFloat negative (Nat.pow 10 400) 1
  else nearestFloat negative (digits * Nat.pow 10 exponent.toNat) (Nat.pow 10 (-exponent).toNat)

end FlowDiagram.Decimal
