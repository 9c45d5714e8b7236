import FlowDiagram.Decimal.Binary
import FlowDiagram.Text.Numeral
import FlowDiagram.Value.Basic

/-! # Plain scalars

A plain scalar denotes a value by its form: null, a truth value, a number in one of several
notations, a date, or else the text itself.  Numbers may hold underscores, and may be written in
base sixty with colons between the digits.
-/

namespace FlowDiagram.Yaml

inductive Scalar where
  | value (v : Value)
  | date
  | merge
  | equals
  | text
deriving Inhabited

def nullWords : List String := ["", "~", "null", "Null", "NULL"]

def trueWords : List String :=
  ["yes", "Yes", "YES", "true", "True", "TRUE", "on", "On", "ON"]

def falseWords : List String :=
  ["no", "No", "NO", "false", "False", "FALSE", "off", "Off", "OFF"]

def isDigit (c : Char) : Bool := Text.isAsciiDigit c

def isDigitOrLow (c : Char) : Bool := isDigit c || c = '_'

/-- The text after its sign, and whether that is a minus. -/
def dropSign : List Char → Bool × List Char
  | '-' :: s => (true, s)
  | '+' :: s => (false, s)
  | s => (false, s)

def plain (s : List Char) : List Char := s.filter (· ≠ '_')

/-- A digit of base sixty: at most two decimal digits below sixty. -/
def isSixtieth : List Char → Bool
  | [d] => isDigit d
  | [t, d] => '0' ≤ t && t ≤ '5' && isDigit d
  | _ => false

/-- The parts of a text between colons. -/
def colonParts (s : List Char) : List (List Char) :=
  s.foldr (fun c parts =>
    if c = ':' then [] :: parts
    else
      match parts with
      | [] => [[c]]
      | part :: rest => (c :: part) :: rest) [[]]

/-- The number in base sixty that some parts denote. -/
def sixtieths (parts : List (List Char)) : Nat :=
  parts.foldl (fun n part => n * 60 + Text.numeralValue 10 (plain part)) 0

/-- The number that digits of a base denote, with underscores among them. -/
def inBase? (base : Nat) (isAllowed : Char → Bool) (digits : List Char) : Option Nat :=
  if digits.isEmpty || !digits.all (fun c => isAllowed c || c = '_') then none
  else some (Text.numeralValue base (plain digits))

/-- A number of decimal digits that does not start with an underscore. -/
def isDecimal : List Char → Bool
  | c :: s => isDigit c && s.all isDigitOrLow
  | [] => false

/-- The whole number without a sign that a text denotes. -/
def natural? : List Char → Option Nat
  | ['0'] => some 0
  | '0' :: 'b' :: s => inBase? 2 (fun c => c = '0' || c = '1') s
  | '0' :: 'x' :: s => inBase? 16 (Text.isDigitIn 16) s
  | '0' :: s => inBase? 8 (fun c => '0' ≤ c && c ≤ '7') s
  | s =>
    match colonParts s with
    | [digits] => if isDecimal digits then some (Text.numeralValue 10 (plain digits)) else none
    | first :: rest =>
      if isDecimal first && rest.all isSixtieth then some (sixtieths (first :: rest)) else none
    | [] => none

/-- The exponent of a double: none is written, or a mark, a sign and digits. -/
def exponent? : List Char → Option Int
  | [] => some 0
  | e :: sign :: digits =>
    if (e = 'e' || e = 'E') && (sign = '+' || sign = '-') && !digits.isEmpty && digits.all isDigit
    then
      let n : Int := Text.numeralValue 10 digits
      some (if sign = '-' then -n else n)
    else none
  | _ => none

/-- The double that digits before and after a point denote. -/
def pointed (negative : Bool) (whole places : List Char) (power : Int) : Float :=
  Decimal.floatOfDecimal negative (Text.numeralValue 10 (plain whole ++ plain places))
    (power - (plain places).length)

/-- The double that a text denotes; a sign goes before a digit or an infinity only. -/
def double? (s : List Char) : Option Float :=
  let (negative, body) := dropSign s
  let word := String.ofList body
  if word ∈ [".inf", ".Inf", ".INF"] then some (if negative then -(1.0 / 0.0) else 1.0 / 0.0)
  else if String.ofList s ∈ [".nan", ".NaN", ".NAN"] then some (0.0 / 0.0)
  else
    let (before, rest) := body.span (· ≠ '.')
    match rest with
    | [] => none
    | _ :: after =>
      let (places, power) := after.span isDigitOrLow
      if before.isEmpty then
        if body.length = s.length && isDecimal places then
          (exponent? power).map (pointed negative [] places)
        else none
      else if isDecimal before then (exponent? power).map (pointed negative before places)
      else
        match colonParts before with
        | first :: second :: more =>
          if isDecimal first && (second :: more).all isSixtieth && power.isEmpty then
            let whole := Text.numeral 10 (sixtieths (first :: second :: more))
            some (pointed negative whole places 0)
          else none
        | _ => none

/-- Digits, as many as one of some counts, and the rest. -/
def takeDigits? (counts : List Nat) (s : List Char) : Option (List Char) :=
  (counts.find? fun n => (s.take n).length = n && (s.take n).all isDigit &&
    !((s.drop n).head?.any isDigit)).map s.drop

def takeChar? (c : Char) : List Char → Option (List Char)
  | d :: s => if d = c then some s else none
  | [] => none

/-- What may follow the time of a date: a fraction of a second and a zone. -/
def isZone (s : List Char) : Bool :=
  let s := match s with
    | '.' :: s => s.dropWhile isDigit
    | s => s
  match s.dropWhile fun c => c = ' ' || c = '\t' with
  | [] => s.isEmpty
  | ['Z'] => true
  | sign :: zone =>
    (sign = '+' || sign = '-') &&
      match takeDigits? [1, 2] zone with
      | some [] => true
      | some (':' :: minutes) => takeDigits? [2] minutes = some []
      | _ => false

/-- The separator between a date and a time, and the rest. -/
def takeSeparator? : List Char → Option (List Char)
  | 'T' :: s => some s
  | 't' :: s => some s
  | s =>
    let rest := s.dropWhile fun c => c = ' ' || c = '\t'
    if rest.length < s.length then some rest else none

/-- The text is a date, or a date with a time. -/
def isDate (s : List Char) : Bool :=
  let day := do
    let s ← takeChar? '-' (← takeDigits? [4] s)
    let s ← takeChar? '-' (← takeDigits? [2] s)
    takeDigits? [2] s
  let moment := do
    let s ← takeChar? '-' (← takeDigits? [4] s)
    let s ← takeChar? '-' (← takeDigits? [1, 2] s)
    let s ← takeSeparator? (← takeDigits? [1, 2] s)
    let s ← takeChar? ':' (← takeDigits? [1, 2] s)
    let s ← takeChar? ':' (← takeDigits? [2] s)
    takeDigits? [2] s
  day == some [] || moment.any isZone

/-- What a plain scalar denotes. -/
def Scalar.ofPlain (s : List Char) : Scalar :=
  let word := String.ofList s
  let (negative, body) := dropSign s
  if word ∈ nullWords then .value .null
  else if word ∈ trueWords then .value (.bool true)
  else if word ∈ falseWords then .value (.bool false)
  else if word = "<<" then .merge
  else if word = "=" then .equals
  else
    match double? s, natural? body with
    | some x, _ => .value (.float x)
    | none, some n => .value (.int (if negative then -(n : Int) else n))
    | none, none => if isDate s then .date else .text

def Scalar.isText : Scalar → Bool
  | text => true
  | _ => false

end FlowDiagram.Yaml
