import FlowDiagram.Text.Digit
import FlowDiagram.Text.Numeral

/-! # Layout of a field

The layout of a field says how wide its text is at least, how long at most, and where it stands in
its width.  It is written as a fill character and an alignment, a width, and a precision after a
point.  What only numbers have, such as a sign or a grouping, is refused.
-/

namespace FlowDiagram.Template

inductive Alignment where
  | left | right | center
deriving DecidableEq, Repr

structure Layout where
  fill : Char
  alignment : Alignment
  width : Nat
  precision : Option Nat
deriving DecidableEq, Repr

/-- Why the layout of a field cannot be used. -/
inductive LayoutFault where
  | tooManyDigits
  | bothGroupings
  | missingPrecision
  | invalid (spec : String)
  | groupingWith (grouping type : Char)
  | unknownType (type : Char)
  | sign
  | space
  | negativeZero
  | alternateForm
  | numericAlignment
deriving DecidableEq, Repr

/-- A character as messages name it: itself if it is printable ASCII, else its code point. -/
def shownChar (c : Char) (last : Nat) : String :=
  if 32 < c.toNat && c.toNat < last then c.toString
  else "\\x" ++ String.ofList (Text.numeral 16 c.toNat)

def LayoutFault.message : LayoutFault → String
  | tooManyDigits => "Too many decimal digits in format string"
  | bothGroupings => "Cannot specify both ',' and '_'."
  | missingPrecision => "Format specifier missing precision"
  | invalid spec => "Invalid format specifier '" ++ spec ++ "' for object of type 'str'"
  | groupingWith grouping type =>
    "Cannot specify '" ++ grouping.toString ++ "' with '" ++ shownChar type 128 ++ "'."
  | unknownType type =>
    "Unknown format code '" ++ shownChar type 128 ++ "' for object of type 'str'"
  | sign => "Sign not allowed in string format specifier"
  | space => "Space not allowed in string format specifier"
  | negativeZero => "Negative zero coercion (z) not allowed in string format specifier"
  | alternateForm => "Alternate form (#) not allowed in string format specifier"
  | numericAlignment => "'=' alignment not allowed in string format specifier"

/-- The greatest number that a layout may hold. -/
def greatestCount : Nat := Nat.pow 2 63 - 1

/-- The decimal number at the front of a text, the count of its digits, and the rest; none if the
number is too great. -/
def readCount : (found : Nat) → (digits : Nat) → List Char → Option (Nat × Nat × List Char)
  | found, digits, [] => some (found, digits, [])
  | found, digits, c :: s =>
    match Text.decimalValue? c with
    | none => some (found, digits, c :: s)
    | some d =>
      if greatestCount < found * 10 + d then none else readCount (found * 10 + d) (digits + 1) s

def isAlignment (c : Char) : Bool := c = '<' || c = '>' || c = '=' || c = '^'

/-- The fill character and the alignment at the front of a layout, and the rest. -/
def readAlignment : List Char → Option Char × Option Char × List Char
  | fill :: a :: s =>
    if isAlignment a then (some fill, some a, s)
    else if isAlignment fill then (none, some fill, a :: s)
    else (none, none, fill :: a :: s)
  | a :: s => if isAlignment a then (none, some a, s) else (none, none, a :: s)
  | [] => (none, none, [])

/-- Whether one of some characters is at the front, and the rest. -/
def readMark (marks : List Char) : List Char → Option Char × List Char
  | c :: s => if c ∈ marks then (some c, s) else (none, c :: s)
  | [] => (none, [])

/-- The grouping marks at the front of a layout, and the rest. -/
def readGrouping (s : List Char) : Except LayoutFault (Option Char × List Char) :=
  match s with
  | ',' :: '_' :: _ => .error .bothGroupings
  | ',' :: s => .ok (some ',', s)
  | '_' :: ',' :: _ => .error .bothGroupings
  | '_' :: s => .ok (some '_', s)
  | s => .ok (none, s)

/-- The precision at the front of a layout, and the rest. -/
def readPrecision (s : List Char) : Except LayoutFault (Option Nat × List Char) :=
  match s with
  | '.' :: s =>
    match readCount 0 0 s with
    | none => .error .tooManyDigits
    | some (_, 0, _) => .error .missingPrecision
    | some (n, _, s) => .ok (some n, s)
  | s => .ok (none, s)

/-- The grouping goes with a type of numbers. -/
def groupingAllowed (grouping type : Char) : Bool :=
  ['d', 'e', 'f', 'g', 'E', 'G', '%', 'F'].contains type ||
    (grouping = '_' && ['b', 'o', 'x', 'X'].contains type)

def checkType (grouping : Option Char) (type : Char) : Except LayoutFault Unit :=
  match grouping with
  | some g => if groupingAllowed g type then .ok () else .error (.groupingWith g type)
  | none => .ok ()

/-- The layout that a text describes; the marks come in a fixed order. -/
def Layout.read (spec : List Char) : Except LayoutFault Layout := do
  let (fill, alignment, s) := readAlignment spec
  let (sign, s) := readMark ['+', '-', ' '] s
  let (negativeZero, s) := readMark ['z'] s
  let (alternate, s) := readMark ['#'] s
  let (zero, s) := if fill.isNone then readMark ['0'] s else (none, s)
  let (width, _, s) ← (readCount 0 0 s).elim (.error .tooManyDigits) .ok
  let (grouping, s) ← readGrouping s
  let (precision, s) ← readPrecision s
  let type ← match s with
    | [] => .ok 's'
    | [type] => .ok type
    | _ => .error (.invalid (String.ofList spec))
  checkType grouping type
  if type ≠ 's' then .error (.unknownType type)
  else if sign = some ' ' then .error .space
  else if sign.isSome then .error .sign
  else if negativeZero.isSome then .error .negativeZero
  else if alternate.isSome then .error .alternateForm
  else if alignment = some '=' then .error .numericAlignment
  else
    return {
      fill := fill.getD (zero.getD ' ')
      alignment := if alignment = some '>' then .right
        else if alignment = some '^' then .center else .left
      width := width
      precision := precision }

/-- A text laid out. -/
def Layout.apply (l : Layout) (s : List Char) : List Char :=
  let kept := match l.precision with
    | some n => s.take n
    | none => s
  let room := l.width - kept.length
  let before := match l.alignment with
    | .left => 0
    | .right => room
    | .center => room / 2
  List.replicate before l.fill ++ kept ++ List.replicate (room - before) l.fill

end FlowDiagram.Template
