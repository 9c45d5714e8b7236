import FlowDiagram.Decimal.Binary
import FlowDiagram.Text.Numeral
import FlowDiagram.Value.Basic

/-! # Reading JSON

A text is read into a value.  A number with a point or an exponent is a double and any other a
whole number; of fields with the same name the last value stays, at the first one's place.  An
error carries its cause and the text that was left when it arose.
-/

namespace FlowDiagram.Json

inductive Cause where
  | byteOrderMark
  | value
  | propertyName
  | colon
  | comma
  | unterminatedText
  | controlCharacter
  | escape
  | codePointEscape
  | extraData
deriving DecidableEq, Repr

def Cause.message : Cause → String
  | byteOrderMark => "Unexpected UTF-8 BOM (decode using utf-8-sig)"
  | value => "Expecting value"
  | propertyName => "Expecting property name enclosed in double quotes"
  | colon => "Expecting ':' delimiter"
  | comma => "Expecting ',' delimiter"
  | unterminatedText => "Unterminated string starting at"
  | controlCharacter => "Invalid control character at"
  | escape => "Invalid \\escape"
  | codePointEscape => "Invalid \\uXXXX escape"
  | extraData => "Extra data"

/-- What is wrong with a text, and where: the line and column count from one, the offset from
zero. -/
structure Fault where
  cause : Cause
  line : Nat
  column : Nat
  offset : Nat
deriving DecidableEq, Repr

def Fault.message (f : Fault) : String :=
  f.cause.message ++ ": line " ++ Text.decimal f.line ++ " column " ++ Text.decimal f.column ++
    " (char " ++ Text.decimal f.offset ++ ")"

/-- The fault of a whole text when `rest` is left of it. -/
def Fault.at (cause : Cause) (whole rest : List Char) : Fault :=
  let before := whole.take (whole.length - rest.length)
  { cause := cause
    line := before.count '\n' + 1
    column := (before.reverse.takeWhile (· ≠ '\n')).length + 1
    offset := before.length }

/-- Why reading stopped, with the text that was left. -/
abbrev Stop := Cause × List Char

def isSpace (c : Char) : Bool := c = ' ' || c = '\t' || c = '\n' || c = '\r'

def skipSpace (s : List Char) : List Char := s.dropWhile isSpace

/-- The rest after a word at the front. -/
def dropWord? (word : String) (s : List Char) : Option (List Char) :=
  if word.toList.isPrefixOf s then some (s.drop word.length) else none

/-- Write a field, at the place of an earlier one of the same name. -/
def putField (name : String) (v : Value) : List (Value × Value) → List (Value × Value)
  | [] => [(.text name, v)]
  | (k, w) :: rest =>
    if k.isText name then (k, v) :: rest else (k, w) :: putField name v rest

/-- Four hexadecimal digits. -/
def codeUnit? (s : List Char) : Option (Nat × List Char) :=
  let digits := s.take 4
  if digits.length = 4 && digits.all (Text.isDigitIn 16) then
    some (Text.numeralValue 16 digits, s.drop 4)
  else none

/-- The second half of a pair of code units, if one follows. -/
def lowSurrogate? : List Char → Option (Nat × List Char)
  | '\\' :: 'u' :: s =>
    match codeUnit? s with
    | some (n, rest) => if 0xdc00 ≤ n && n < 0xe000 then some (n, rest) else none
    | none => none
  | _ => none

/-- The character of a code point escape whose mark has been read. -/
def escapedCodePoint (s : List Char) : Option (Char × List Char) :=
  match codeUnit? s with
  | none => none
  | some (high, rest) =>
    if 0xd800 ≤ high && high < 0xdc00 then
      match lowSurrogate? rest with
      | some (low, rest') =>
        some (Char.ofNat (0x10000 + (high - 0xd800) * 0x400 + (low - 0xdc00)), rest')
      | none => some ('\ufffd', rest)
    else if 0xdc00 ≤ high && high < 0xe000 then some ('\ufffd', rest)
    else some (Char.ofNat high, rest)

/-- The character that a letter after a backslash stands for. -/
def simpleEscape? : Char → Option Char
  | '"' => some '"'
  | '\\' => some '\\'
  | '/' => some '/'
  | 'b' => some '\x08'
  | 'f' => some '\x0c'
  | 'n' => some '\n'
  | 'r' => some '\r'
  | 't' => some '\t'
  | _ => none

/-- The rest of a text whose opening mark has been read; `start` is the text from that mark on. -/
def readText (start : List Char) : (fuel : Nat) → (read : List Char) → List Char →
    Except Stop (String × List Char)
  | 0, _, _ => .error (.unterminatedText, start)
  | _ + 1, _, [] => .error (.unterminatedText, start)
  | _ + 1, read, '"' :: s => .ok (String.ofList read.reverse, s)
  | _ + 1, _, '\\' :: [] => .error (.unterminatedText, start)
  | fuel + 1, read, '\\' :: c :: s =>
    if c = 'u' then
      match escapedCodePoint s with
      | some (d, rest) => readText start fuel (d :: read) rest
      | none => .error (.codePointEscape, s)
    else
      match simpleEscape? c with
      | some d => readText start fuel (d :: read) s
      | none => .error (.escape, '\\' :: c :: s)
  | fuel + 1, read, c :: s =>
    if c.toNat < 0x20 then .error (.controlCharacter, c :: s)
    else readText start fuel (c :: read) s

/-- The digits after a point, if at least one follows it. -/
def fraction (s : List Char) : List Char × List Char :=
  match s with
  | '.' :: r => if (r.takeWhile Text.isAsciiDigit).isEmpty then ([], s) else r.span Text.isAsciiDigit
  | _ => ([], s)

/-- The exponent, if an exponent mark and a digit follow. -/
def exponent? (s : List Char) : Option (Int × List Char) :=
  match s with
  | c :: r =>
    if c = 'e' || c = 'E' then
      let (negative, digits) := match r with
        | '-' :: d => (true, d)
        | '+' :: d => (false, d)
        | d => (false, d)
      let (power, rest) := digits.span Text.isAsciiDigit
      if power.isEmpty then none
      else
        let n : Int := Text.numeralValue 10 power
        some (if negative then -n else n, rest)
    else none
  | [] => none

/-- A number without its sign; none if no digit is at the front. -/
def number? (negative : Bool) (s : List Char) : Option (Value × List Char) :=
  let (whole, afterWhole) := match s with
    | '0' :: r => (['0'], r)
    | _ => s.span Text.isAsciiDigit
  if whole.isEmpty then none
  else
    let (places, afterPlaces) := fraction afterWhole
    match places, exponent? afterPlaces with
    | [], none =>
      let n : Int := Text.numeralValue 10 whole
      some (.int (if negative then -n else n), afterPlaces)
    | _, power =>
      let digits := Text.numeralValue 10 (whole ++ places)
      let scale := (power.map Prod.fst).getD 0 - places.length
      some (.float (Decimal.floatOfDecimal negative digits scale),
        (power.map Prod.snd).getD afterPlaces)

/-- The words that stand for values. -/
def words : List (String × Value) :=
  let infinity := Float.ofBits (UInt64.ofNat Decimal.Binary.infinityBits)
  [("null", .null), ("true", .bool true), ("false", .bool false), ("NaN", .float (0.0 / 0.0)),
    ("Infinity", .float infinity), ("-Infinity", .float (-infinity))]

def word? (s : List Char) : Option (Value × List Char) :=
  words.findSome? fun w => (dropWord? w.1 s).map fun rest => (w.2, rest)

mutual

/-- The value at the front of a text. -/
def readValue : (fuel : Nat) → List Char → Except Stop (Value × List Char)
  | 0, s => .error (.value, s)
  | fuel + 1, s =>
    match s with
    | '"' :: r => (readText s (r.length + 1) [] r).map fun (t, rest) => (.text t, rest)
    | '[' :: r =>
      match skipSpace r with
      | ']' :: rest => .ok (.list [], rest)
      | r' => readItems fuel [] r'
    | '\x7b' :: r =>
      match skipSpace r with
      | '\x7d' :: rest => .ok (.mapping [], rest)
      | r' => readFields fuel [] r'
    | _ =>
      match word? s with
      | some found => .ok found
      | none =>
        let found := match s with
          | '-' :: r => number? true r
          | _ => number? false s
        match found with
        | some found => .ok found
        | none => .error (.value, s)

/-- The items of a list from the next one on, and its end. -/
def readItems : (fuel : Nat) → (read : List Value) → List Char →
    Except Stop (Value × List Char)
  | 0, _, s => .error (.value, s)
  | fuel + 1, read, s => do
    let (v, r) ← readValue fuel s
    match skipSpace r with
    | ']' :: rest => .ok (.list (v :: read).reverse, rest)
    | ',' :: rest => readItems fuel (v :: read) (skipSpace rest)
    | r' => .error (.comma, r')

/-- The fields of a mapping from the next one on, and its end. -/
def readFields : (fuel : Nat) → (read : List (Value × Value)) → List Char →
    Except Stop (Value × List Char)
  | 0, _, s => .error (.propertyName, s)
  | fuel + 1, read, s =>
    match s with
    | '"' :: afterMark => do
      let (name, r) ← readText s (afterMark.length + 1) [] afterMark
      match skipSpace r with
      | ':' :: afterColon =>
        let (v, r') ← readValue fuel (skipSpace afterColon)
        match skipSpace r' with
        | '\x7d' :: rest => .ok (.mapping (putField name v read), rest)
        | ',' :: rest => readFields fuel (putField name v read) (skipSpace rest)
        | r'' => .error (.comma, r'')
      | r' => .error (.colon, r')
    | _ => .error (.propertyName, s)

end

/-- The value that a whole text denotes.  Each pair of steps takes at least one character, which
bounds the steps. -/
def read (s : String) : Except Fault Value :=
  let whole := s.toList
  let outcome : Except Stop Value :=
    match whole with
    | '\ufeff' :: _ => .error (.byteOrderMark, whole)
    | _ => do
      let (v, rest) ← readValue (2 * whole.length + 2) (skipSpace whole)
      match skipSpace rest with
      | [] => .ok v
      | rest' => .error (.extraData, rest')
  outcome.mapError fun e => Fault.at e.1 whole e.2

end FlowDiagram.Json
