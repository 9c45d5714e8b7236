/-! # Numerals

Whole numbers written in a base, with a least width.  The digits past nine are small letters.
-/

namespace FlowDiagram.Text

def digitChar (n : Nat) : Char :=
  if n < 10 then Char.ofNat ('0'.toNat + n) else Char.ofNat ('a'.toNat + (n - 10))

/-- The digits of a number in a base of at least two, the highest first; none for zero. -/
def digitsAbove (base : Nat) (n : Nat) (below : List Char) : List Char :=
  if _ : n = 0 ∨ base < 2 then below
  else digitsAbove base (n / base) (digitChar (n % base) :: below)
termination_by n
decreasing_by exact Nat.div_lt_self (by omega) (by omega)

/-- The digits of a number in a base of at least two, the highest first. -/
def numeral (base n : Nat) : List Char :=
  if n = 0 then ['0'] else digitsAbove base n []

/-- A numeral with zeros before it up to a width. -/
def paddedNumeral (base width n : Nat) : List Char :=
  let digits := numeral base n
  List.replicate (width - digits.length) '0' ++ digits

def decimal (n : Nat) : String := String.ofList (numeral 10 n)

/-- A whole number in base ten, with a sign if it is negative. -/
def signedDecimal : Int → String
  | .ofNat n => decimal n
  | .negSucc n => "-" ++ decimal (n + 1)

def isAsciiDigit (c : Char) : Bool := '0' ≤ c && c ≤ '9'

/-- The value of a digit in the bases up to thirty-six, in letters of either case. -/
def digitValue? (c : Char) : Option Nat :=
  if isAsciiDigit c then some (c.toNat - '0'.toNat)
  else if 'a' ≤ c && c ≤ 'z' then some (c.toNat - 'a'.toNat + 10)
  else if 'A' ≤ c && c ≤ 'Z' then some (c.toNat - 'A'.toNat + 10)
  else none

def isDigitIn (base : Nat) (c : Char) : Bool :=
  match digitValue? c with
  | some d => d < base
  | none => false

/-- The number that digits denote in a base. -/
def numeralValue (base : Nat) (digits : List Char) : Nat :=
  digits.foldl (fun n c => n * base + (digitValue? c).getD 0) 0

end FlowDiagram.Text
