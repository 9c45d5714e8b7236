import FlowDiagram.Decimal.Binary
import FlowDiagram.Text.Blank
import FlowDiagram.Text.Digit
import FlowDiagram.Text.Numeral

/-! # Numbers written as text

Blanks around a number do not count, digits may be of any script, and an underscore may stand
between two digits.  A whole number may be in a base up to thirty-six, with the mark of its base
before it; base zero takes the base from the mark.  A double may also be an infinity or no number.
-/

namespace FlowDiagram.Value

/-- A character in its ASCII form: a digit of another script as the digit, another blank as a
space. -/
def asciiForm (c : Char) : Char :=
  if c.toNat < 127 then c
  else if Text.isBlank c then ' '
  else
    match Text.decimalValue? c with
    | some d => Text.digitChar d
    | none => '?'

def isAsciiBlank (c : Char) : Bool := c = ' ' || (9 ≤ c.toNat && c.toNat ≤ 13)

/-- The ASCII form of a text without the blanks around it. -/
def numberChars (s : String) : List Char :=
  let cs := (s.toList.map asciiForm).dropWhile isAsciiBlank
  (cs.reverse.dropWhile isAsciiBlank).reverse

/-- Whether a sign is a minus, and the rest after it. -/
def readSign : List Char → Bool × List Char
  | '-' :: s => (true, s)
  | '+' :: s => (false, s)
  | s => (false, s)

/-- The digits of a text without the underscores between them; none if anything else is there. -/
def plainDigits? (isDigit : Char → Bool) : List Char → Option (List Char)
  | [] => none
  | [c] => if isDigit c then some [c] else none
  | c :: '_' :: s => if isDigit c then (plainDigits? isDigit s).map (c :: ·) else none
  | c :: d :: s => if isDigit c then (plainDigits? isDigit (d :: s)).map (c :: ·) else none

def baseMark? : Char → Option Nat
  | 'x' | 'X' => some 16
  | 'o' | 'O' => some 8
  | 'b' | 'B' => some 2
  | _ => none

/-- The base that the text is in and its digits, when any base that is marked will do. -/
def markedBase : List Char → Nat × List Char
  | '0' :: m :: s =>
    match baseMark? m with
    | some base => (base, if s.head? = some '_' then s.drop 1 else s)
    | none => (10, '0' :: m :: s)
  | s => (10, s)

/-- The digits of a text after the mark of a base, if it is there. -/
def afterBaseMark (base : Nat) (s : List Char) : List Char :=
  let (marked, rest) := markedBase s
  if rest.length < s.length && marked = base then rest else s

/-- The whole number without its sign that a text denotes. -/
def naturalOfText? (base : Nat) (s : List Char) : Option Nat :=
  if base = 0 then do
    let (base, rest) := markedBase s
    let digits ← plainDigits? (Text.isDigitIn base) rest
    guard (base ≠ 10 || digits.head? ≠ some '0' || digits.all (· = '0'))
    some (Text.numeralValue base digits)
  else
    (plainDigits? (Text.isDigitIn base) (afterBaseMark base s)).map (Text.numeralValue base)

/-- The whole number that a text denotes in a base. -/
def intOfText? (base : Nat) (s : String) : Option Int :=
  let (negative, digits) := readSign (numberChars s)
  (naturalOfText? base digits).map fun n => if negative then -(n : Int) else n

/-- The exponent of a number, none without its mark. -/
def exponentOfText? : List Char → Option Int
  | [] => some 0
  | c :: s =>
    if c = 'e' || c = 'E' then
      let (negative, digits) := readSign s
      (plainDigits? Text.isAsciiDigit digits).map fun d =>
        let n : Int := Text.numeralValue 10 d
        if negative then -n else n
    else none

def digitsOrNone? (s : List Char) : Option (List Char) :=
  if s.isEmpty then some [] else plainDigits? Text.isAsciiDigit s

def isExponentMark (c : Char) : Bool := c = 'e' || c = 'E'

/-- The finite double that a text without sign denotes. -/
def finiteOfText? (negative : Bool) (s : List Char) : Option Float := do
  let (mantissa, power) := s.span fun c => !isExponentMark c
  let (before, after) := mantissa.span (· ≠ '.')
  let whole ← digitsOrNone? before
  let places ← digitsOrNone? (after.drop 1)
  guard !(whole.isEmpty && places.isEmpty)
  let exponent ← exponentOfText? power
  some (Decimal.floatOfDecimal negative (Text.numeralValue 10 (whole ++ places))
    (exponent - places.length))

/-- The double that a text denotes. -/
def floatOfText? (s : String) : Option Float :=
  let (negative, digits) := readSign (numberChars s)
  let word := String.ofList (digits.map Char.toLower)
  let signed := fun x : Float => if negative then -x else x
  if word = "inf" || word = "infinity" then some (signed (1.0 / 0.0))
  else if word = "nan" then some (0.0 / 0.0)
  else finiteOfText? negative digits

end FlowDiagram.Value
