import FlowDiagram.Value.Display
import FlowDiagram.Yaml.Scalar

/-! # Writing YAML

A value is written in blocks.  A list or a mapping in a mapping starts on a line of its own, a list
not indented below its key, and what stands in a list starts on the line of its mark; empty ones
are written in brackets.  A text is plain where it can be, else between single marks, and between
double marks only if it holds other characters than printable ASCII and line feeds, or blanks next
to a line feed.  Past column eighty a text goes on in the next line, two columns deeper.
-/

namespace FlowDiagram.Yaml

inductive Style where
  | plain | single | double
deriving DecidableEq, Repr

def isBreak (c : Char) : Bool := c = '\n' || c = '\x85' || c = '\u2028' || c = '\u2029'

def isPrintableAscii (c : Char) : Bool := 0x20 ≤ c.toNat && c.toNat ≤ 0x7e

/-- The text can only be written with escapes. -/
def needsEscapes (s : List Char) : Bool := s.any fun c => c ≠ '\n' && !isPrintableAscii c

def isGap (c : Char) : Bool := c = ' ' || c = '\n'

/-- The next character is a blank, or there is none. -/
def beforeGap (s : List Char) : Bool :=
  match s with
  | [] => true
  | c :: _ => isGap c

/-- The characters that no plain text starts with. -/
def indicators : List Char :=
  ['#', ',', '[', ']', '\x7b', '\x7d', '&', '*', '!', '|', '>', '\'', '"', '%', '@', '\x60']

/-- The start of the text would be taken for something else. -/
def startsIndicator : List Char → Bool
  | [] => false
  | c :: s =>
    ['-', '-', '-'].isPrefixOf (c :: s) || ['.', '.', '.'].isPrefixOf (c :: s) ||
      indicators.contains c || ((c = '?' || c = ':' || c = '-') && beforeGap s)

/-- A colon before a blank, or a number sign after one, stands in the text after its start. -/
def holdsIndicator : List Char → Bool
  | c :: d :: s => (d = ':' && beforeGap s) || (d = '#' && isGap c) || holdsIndicator (d :: s)
  | _ => false

/-- Two characters stand next to each other in a text. -/
def holdsPair (a b : Char) : List Char → Bool
  | c :: d :: s => (c = a && d = b) || holdsPair a b (d :: s)
  | _ => false

def plainAllowed (s : List Char) : Bool :=
  !needsEscapes s && !s.contains '\n' && !startsIndicator s && !holdsIndicator s &&
    !s.head?.any isGap && !s.getLast?.any isGap

def singleAllowed (s : List Char) : Bool :=
  !needsEscapes s && !holdsPair '\n' ' ' s && !holdsPair ' ' '\n' s

/-- The style of a text; a key that stands before its colon takes one line. -/
def styleOf (isKey : Bool) (s : List Char) : Style :=
  if (Scalar.ofPlain s).isText && plainAllowed s then .plain
  else if singleAllowed s && !(isKey && s.any isBreak) then .single
  else .double

def blanks (n : Nat) : List Char := List.replicate n ' '

/-- A new line that starts at a column. -/
def newLine (column : Nat) : List Char := '\n' :: blanks column

/-- The column past which a text goes on in the next line. -/
def bestWidth : Nat := 80

/-- A plain text from a column on; `indent` is the column of further lines. -/
def foldPlain (indent : Nat) : (column : Nat) → (afterBlank : Bool) → List Char → List Char
  | _, _, [] => []
  | column, afterBlank, c :: s =>
    if c = ' ' && !afterBlank && s.head? ≠ some ' ' && bestWidth < column then
      newLine indent ++ foldPlain indent indent false s
    else c :: foldPlain indent (column + 1) (c = ' ') s

/-- A text between single marks, without the marks.  The single marks in it are doubled, and one
line feed more is written than the text holds in a row. -/
def foldSingle (indent : Nat) : (column : Nat) → (before : Option Char) → List Char → List Char
  | _, _, [] => []
  | column, before, c :: s =>
    if c = '\n' then
      (if before = some '\n' then ['\n'] else ['\n', '\n']) ++
        (if s.head? = some '\n' then foldSingle indent 0 (some '\n') s
          else blanks indent ++ foldSingle indent indent (some '\n') s)
    else if c = '\'' then '\'' :: '\'' :: foldSingle indent (column + 2) (some c) s
    else if c = ' ' && before.isSome && before ≠ some ' ' && s.head?.any (· ≠ ' ') &&
        bestWidth < column then
      newLine indent ++ foldSingle indent indent (some ' ') s
    else c :: foldSingle indent (column + 1) (some c) s

/-- The characters with escapes of their own. -/
def namedEscapes : List (Char × Char) :=
  [('\x00', '0'), ('\x07', 'a'), ('\x08', 'b'), ('\x09', 't'), ('\x0a', 'n'), ('\x0b', 'v'),
    ('\x0c', 'f'), ('\x0d', 'r'), ('\x1b', 'e'), ('"', '"'), ('\\', '\\'), ('\x85', 'N'),
    ('\xa0', '_'), ('\u2028', 'L'), ('\u2029', 'P')]

def upperNumeral (width n : Nat) : List Char := (Text.paddedNumeral 16 width n).map Char.toUpper

/-- A character as an escape, none if it stands for itself. -/
def escape? (c : Char) : Option (List Char) :=
  match namedEscapes.find? (·.1 = c) with
  | some (_, e) => some ['\\', e]
  | none =>
    let n := c.toNat
    if isPrintableAscii c then none
    else if n < 0x100 then some ('\\' :: 'x' :: upperNumeral 2 n)
    else if n < 0x10000 then some ('\\' :: 'u' :: upperNumeral 4 n)
    else some ('\\' :: 'U' :: upperNumeral 8 n)

/-- A text between double marks, without the marks.  A line may end, with a backslash, before a
blank, before what follows an escape, and, one column later, after an escape, but not at the ends
of the text; a blank at the start of a line follows a backslash. -/
def foldDouble (indent : Nat) (split : Bool) :
    (column : Nat) → (isFirst afterEscape : Bool) → List Char → List Char
  | _, _, _, [] => []
  | column, isFirst, afterEscape, c :: s =>
    let inside := split && !isFirst && !s.isEmpty
    match escape? c with
    | some e =>
      let column := column + e.length
      if inside && bestWidth + 1 < column then
        let blank := if s.head? = some ' ' then ['\\'] else []
        e ++ '\\' :: newLine indent ++ blank ++
          foldDouble indent split (indent + blank.length) false true s
      else e ++ foldDouble indent split column false true s
    | none =>
      if inside && (c = ' ' || afterEscape) && bestWidth < column then
        let blank := if c = ' ' then ['\\'] else []
        '\\' :: newLine indent ++ blank ++
          c :: foldDouble indent split (indent + blank.length + 1) false false s
      else c :: foldDouble indent split (column + 1) false false s

/-- A text from a column on. -/
def writeText (isKey : Bool) (indent column : Nat) (s : List Char) : List Char :=
  match styleOf isKey s with
  | .plain => if isKey then s else foldPlain indent column false s
  | .single =>
    let inner := if isKey then s.flatMap fun c => if c = '\'' then ['\'', '\''] else [c]
      else foldSingle indent (column + 1) none s
    '\'' :: (inner ++ ['\''])
  | .double => '"' :: (foldDouble indent (!isKey) (column + 1) true false s ++ ['"'])

/-- The text of a double, with a point also before an exponent. -/
def numberLayout : Decimal.Layout :=
  { Value.numberLayout with loneMark := ".0", infinity := ".inf", notANumber := ".nan" }

/-- A value that holds no others, from a column on. -/
def writeSimple (isKey : Bool) (indent column : Nat) : Value → String
  | .null => "null"
  | .bool true => "true"
  | .bool false => "false"
  | .int i => Text.signedDecimal i
  | .float x => numberLayout.write x
  | v => String.ofList (writeText isKey indent column v.display.toList)

/-- The greatest length of a key that stands before its colon. -/
def greatestKey : Nat := 122

/-- The key takes no line of its own. -/
def isShortKey (key : String) : Bool :=
  key.length ≤ greatestKey && !key.isEmpty && !key.toList.any isBreak

def breakAt (column : Nat) : String := String.ofList (newLine column)

def joinAt (column : Nat) (parts : List String) : String := (breakAt column).intercalate parts

mutual

/-- What follows the colon of a key, in a mapping at `indent`. -/
def afterKey (indent column : Nat) : Value → String
  | .list [] => " []"
  | .tuple [] => " []"
  | .mapping [] => " \x7b\x7d"
  | .list items => breakAt indent ++ joinAt indent (writeItems indent items)
  | .tuple items => breakAt indent ++ joinAt indent (writeItems indent items)
  | .mapping entries =>
    breakAt (indent + 2) ++ joinAt (indent + 2) (writeEntries (indent + 2) entries)
  | v => " " ++ writeSimple false (indent + 2) (column + 1) v

/-- What follows a mark at column `indent`. -/
def afterMark (indent : Nat) : Value → String
  | .list [] => " []"
  | .tuple [] => " []"
  | .mapping [] => " \x7b\x7d"
  | .list items => " " ++ joinAt (indent + 2) (writeItems (indent + 2) items)
  | .tuple items => " " ++ joinAt (indent + 2) (writeItems (indent + 2) items)
  | .mapping entries => " " ++ joinAt (indent + 2) (writeEntries (indent + 2) entries)
  | v => " " ++ writeSimple false (indent + 2) (indent + 2) v

def writeItems (indent : Nat) : List Value → List String
  | [] => []
  | v :: rest => ("-" ++ afterMark indent v) :: writeItems indent rest

def writeEntries (indent : Nat) : List (Value × Value) → List String
  | [] => []
  | (k, v) :: rest =>
    let entry :=
      if isShortKey k.display then
        let key := writeSimple true indent indent k ++ ":"
        key ++ afterKey indent (indent + key.length) v
      else
        "? " ++ writeSimple false (indent + 2) (indent + 2) k ++ breakAt indent ++ ":" ++
          afterMark indent v
    entry :: writeEntries indent rest

end

/-- A list or a mapping as YAML, with a line feed at the end; any other value on a line. -/
def write : Value → String
  | .list (v :: rest) => joinAt 0 (writeItems 0 (v :: rest)) ++ "\n"
  | .mapping (e :: rest) => joinAt 0 (writeEntries 0 (e :: rest)) ++ "\n"
  | .list [] => "[]\n"
  | .mapping [] => "\x7b\x7d\n"
  | v => writeSimple false 2 0 v ++ "\n"

end FlowDiagram.Yaml
