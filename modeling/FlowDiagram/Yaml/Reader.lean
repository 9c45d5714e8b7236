import FlowDiagram.Value.Compare
import FlowDiagram.Yaml.Scalar

/-! # Reading YAML

A document is a value in blocks, by indentation, or in brackets, where line ends do not count.  A
scalar is plain or between marks; a plain one, and one between marks, may go on in further lines,
where a line end counts as a blank.  Anchors, tags, block scalars and explicit keys are not read.
-/

namespace FlowDiagram.Yaml

/-- A place in a text: the rest of it, and the column of the rest. -/
structure Place where
  rest : List Char
  column : Nat

/-- The text cannot be read; the number of characters that were left. -/
structure Fault where
  left : Nat
deriving DecidableEq, Repr

def Fault.message (f : Fault) : String :=
  "unexpected text, " ++ Text.decimal f.left ++ " characters before the end"

namespace Place

def fail {α : Type} (p : Place) : Except Fault α := .error ⟨p.rest.length⟩

/-- The place some characters further in the same line. -/
def forward (p : Place) (n : Nat) : Place := ⟨p.rest.drop n, p.column + n⟩

end Place

def isEndOfLine (c : Char) : Bool := c = '\n' || c = '\x85' || c = '\u2028' || c = '\u2029'

/-- A blank, a line end, or the end of the text is at the front. -/
def atGap : List Char → Bool
  | [] => true
  | c :: _ => c = ' ' || c = '\t' || isEndOfLine c

/-- The place after spaces and comments, and whether a line end was among them.  A comment
follows a space, or starts the text or a line. -/
def skipGaps : (fuel : Nat) → (afterGap newLine : Bool) → Place → Place × Bool
  | 0, _, newLine, p => (p, newLine)
  | fuel + 1, afterGap, newLine, p =>
    match p.rest with
    | [] => (p, newLine)
    | c :: s =>
      if c = ' ' then skipGaps fuel true newLine ⟨s, p.column + 1⟩
      else if isEndOfLine c then skipGaps fuel true true ⟨s, 0⟩
      else if c = '#' && afterGap then
        skipGaps fuel true newLine ⟨s.dropWhile (!isEndOfLine ·), p.column⟩
      else (p, newLine)

def skip (p : Place) : Place × Bool := skipGaps (p.rest.length + 1) true false p

/-- What a gap in a scalar counts as: blanks as themselves, one line end as a blank, and several as
one less than they are. -/
def gapText (blanks : List Char) (lineEnds : Nat) : List Char :=
  match lineEnds with
  | 0 => blanks
  | 1 => [' ']
  | n + 1 => List.replicate n '\n'

/-- The blanks and the number of line ends at the front, and the place after them. -/
def readGap (isBlank : Char → Bool) : (fuel : Nat) → (blanks : List Char) → (lineEnds : Nat) →
    Place → List Char × Nat × Place
  | 0, blanks, lineEnds, p => (blanks.reverse, lineEnds, p)
  | fuel + 1, blanks, lineEnds, p =>
    match p.rest with
    | c :: s =>
      if isBlank c then readGap isBlank fuel (c :: blanks) lineEnds ⟨s, p.column + 1⟩
      else if isEndOfLine c then readGap isBlank fuel [] (lineEnds + 1) ⟨s, 0⟩
      else (blanks.reverse, lineEnds, p)
    | [] => (blanks.reverse, lineEnds, p)

/-- The gap at the front of a text between marks; tabs count as blanks there and nowhere else. -/
def gap (p : Place) : List Char × Nat × Place :=
  readGap (fun c => c = ' ' || c = '\t') (p.rest.length + 1) [] 0 p

/-- The gap at the front of the rest of a plain scalar. -/
def plainGap (p : Place) : List Char × Nat × Place :=
  readGap (· = ' ') (p.rest.length + 1) [] 0 p

/-- A document ends at the front of a line. -/
def atDocumentMark (p : Place) : Bool :=
  p.column = 0 && (['-', '-', '-'].isPrefixOf p.rest || ['.', '.', '.'].isPrefixOf p.rest) &&
    atGap (p.rest.drop 3)

/-- The characters that end a plain scalar between brackets. -/
def isFlowMark (c : Char) : Bool :=
  c = ',' || c = '[' || c = ']' || c = '\x7b' || c = '\x7d'

/-- The characters of a plain scalar up to the next gap or mark. -/
def plainRun (inFlow : Bool) : List Char → List Char
  | [] => []
  | c :: s =>
    if atGap (c :: s) then []
    else if c = ':' && (atGap s || (inFlow && s.head?.any isFlowMark)) then []
    else if inFlow && (isFlowMark c || c = '?') then []
    else c :: plainRun inFlow s

/-- A plain scalar whose further lines start at a column or past it. -/
def readPlain (inFlow : Bool) (column : Nat) : (fuel : Nat) → Place → List Char × Place
  | 0, p => ([], p)
  | fuel + 1, p =>
    let run := plainRun inFlow p.rest
    let p := p.forward run.length
    let (blanks, lineEnds, next) := plainGap p
    let ended := blanks.isEmpty && lineEnds = 0 || next.rest.head? = some '#' ||
      (!inFlow && lineEnds ≠ 0 && next.column < column) || (lineEnds ≠ 0 && atDocumentMark next) ||
      (plainRun inFlow next.rest).isEmpty
    if ended then (run, p)
    else
      let (more, rest) := readPlain inFlow column fuel next
      (run ++ gapText blanks lineEnds ++ more, rest)

/-- The characters that no plain scalar starts with. -/
def notPlainStart : List Char :=
  ['-', '?', ':', ',', '[', ']', '\x7b', '\x7d', '#', '&', '*', '!', '|', '>', '\'', '"', '%', '@',
    '\x60']

def startsPlain (inFlow : Bool) : List Char → Bool
  | [] => false
  | c :: s =>
    !atGap (c :: s) && (!notPlainStart.contains c ||
      (!atGap s && (c = '-' || (!inFlow && (c = '?' || c = ':')))))

/-- The value of a plain scalar. -/
def plainValue (p : Place) (s : List Char) : Except Fault Value :=
  match Scalar.ofPlain s with
  | .value v => .ok v
  | .text => .ok (.text (String.ofList s))
  | .date => .ok (.text (String.ofList s))
  | .merge => p.fail
  | .equals => p.fail

/-- A text between single marks whose first mark has been read. -/
def readSingle : (fuel : Nat) → Place → Except Fault (List Char × Place)
  | 0, p => p.fail
  | fuel + 1, p =>
    match p.rest with
    | [] => p.fail
    | '\'' :: '\'' :: _ => do
      let (more, rest) ← readSingle fuel (p.forward 2)
      return ('\'' :: more, rest)
    | '\'' :: _ => return ([], p.forward 1)
    | c :: _ =>
      if atGap p.rest then
        let (blanks, lineEnds, next) := gap p
        if lineEnds ≠ 0 && atDocumentMark next then p.fail
        else do
          let (more, rest) ← readSingle fuel next
          return (gapText blanks lineEnds ++ more, rest)
      else do
        let (more, rest) ← readSingle fuel (p.forward 1)
        return (c :: more, rest)

/-- The character that a letter after a backslash stands for. -/
def namedEscape? : Char → Option Char
  | '0' => some '\x00'
  | 'a' => some '\x07'
  | 'b' => some '\x08'
  | 't' => some '\t'
  | '\t' => some '\t'
  | 'n' => some '\n'
  | 'v' => some '\x0b'
  | 'f' => some '\x0c'
  | 'r' => some '\r'
  | 'e' => some '\x1b'
  | ' ' => some ' '
  | '"' => some '"'
  | '\\' => some '\\'
  | '/' => some '/'
  | 'N' => some '\x85'
  | '_' => some '\xa0'
  | 'L' => some '\u2028'
  | 'P' => some '\u2029'
  | _ => none

def escapeWidth? : Char → Option Nat
  | 'x' => some 2
  | 'u' => some 4
  | 'U' => some 8
  | _ => none

/-- A text between double marks whose first mark has been read. -/
def readDouble : (fuel : Nat) → Place → Except Fault (List Char × Place)
  | 0, p => p.fail
  | fuel + 1, p =>
    match p.rest with
    | [] => p.fail
    | '"' :: _ => return ([], p.forward 1)
    | '\\' :: e :: s =>
      match namedEscape? e, escapeWidth? e with
      | some c, _ => do
        let (more, rest) ← readDouble fuel (p.forward 2)
        return (c :: more, rest)
      | none, some width =>
        let digits := s.take width
        if digits.length = width && digits.all (Text.isDigitIn 16) then do
          let (more, rest) ← readDouble fuel (p.forward (2 + width))
          return (Char.ofNat (Text.numeralValue 16 digits) :: more, rest)
        else p.fail
      | none, none =>
        if isEndOfLine e then
          let (_, lineEnds, next) := gap ⟨s, 0⟩
          do
            let (more, rest) ← readDouble fuel next
            return (List.replicate lineEnds '\n' ++ more, rest)
        else p.fail
    | c :: _ =>
      if atGap p.rest then
        let (blanks, lineEnds, next) := gap p
        if lineEnds ≠ 0 && atDocumentMark next then p.fail
        else do
          let (more, rest) ← readDouble fuel next
          return (gapText blanks lineEnds ++ more, rest)
      else do
        let (more, rest) ← readDouble fuel (p.forward 1)
        return (c :: more, rest)

/-- A scalar; its further lines start at a column or past it. -/
def readScalar (inFlow : Bool) (column : Nat) (p : Place) : Except Fault (Value × Place) :=
  let fuel := p.rest.length + 1
  match p.rest with
  | '\'' :: _ =>
    (readSingle fuel (p.forward 1)).map fun (s, rest) => (.text (String.ofList s), rest)
  | '"' :: _ =>
    (readDouble fuel (p.forward 1)).map fun (s, rest) => (.text (String.ofList s), rest)
  | _ =>
    if startsPlain inFlow p.rest then do
      let (s, rest) := readPlain inFlow column fuel p
      return (← plainValue p s, rest)
    else p.fail

/-- Write an entry of a mapping whose key is at a place. -/
def putKey (p : Place) (k v : Value) (entries : List (Value × Value)) :
    Except Fault (List (Value × Value)) :=
  if k.hashable then .ok (Value.putEntry k v entries) else p.fail

mutual

/-- A value between brackets, or a scalar there. -/
def readFlow : (fuel : Nat) → Place → Except Fault (Value × Place)
  | 0, p => p.fail
  | fuel + 1, p =>
    match p.rest with
    | '[' :: _ => readFlowItems fuel [] (skip (p.forward 1)).1
    | '\x7b' :: _ => readFlowEntries fuel [] (skip (p.forward 1)).1
    | _ => readScalar true 0 p

/-- The items of a list from the next one on, and its end. -/
def readFlowItems : (fuel : Nat) → (read : List Value) → Place → Except Fault (Value × Place)
  | 0, _, p => p.fail
  | fuel + 1, read, p =>
    match p.rest with
    | ']' :: _ => .ok (.list read.reverse, p.forward 1)
    | _ => do
      let (v, rest) ← readFlow fuel p
      let next := (skip rest).1
      match next.rest with
      | ']' :: _ => .ok (.list (v :: read).reverse, next.forward 1)
      | ',' :: _ => readFlowItems fuel (v :: read) (skip (next.forward 1)).1
      | _ => next.fail

/-- The entries of a mapping from the next one on, and its end. -/
def readFlowEntries : (fuel : Nat) → (read : List (Value × Value)) → Place →
    Except Fault (Value × Place)
  | 0, _, p => p.fail
  | fuel + 1, read, p =>
    match p.rest with
    | '\x7d' :: _ => .ok (.mapping read, p.forward 1)
    | _ => do
      let (k, rest) ← readFlow fuel p
      let next := (skip rest).1
      let (v, next) ← match next.rest with
        | ':' :: _ => readFlowValue fuel (skip (next.forward 1)).1
        | _ => .ok (.null, next)
      let read ← putKey p k v read
      match next.rest with
      | '\x7d' :: _ => .ok (.mapping read, next.forward 1)
      | ',' :: _ => readFlowEntries fuel read (skip (next.forward 1)).1
      | _ => next.fail

/-- The value after a colon between brackets, null if none is there, and the place after it. -/
def readFlowValue : (fuel : Nat) → Place → Except Fault (Value × Place)
  | 0, p => p.fail
  | fuel + 1, p =>
    match p.rest with
    | ',' :: _ => .ok (.null, p)
    | '\x7d' :: _ => .ok (.null, p)
    | _ => do
      let (v, rest) ← readFlow fuel p
      return (v, (skip rest).1)

end

/-- The mark of a list item is at the front. -/
def atItem (p : Place) : Bool := p.rest.head? = some '-' && atGap (p.rest.drop 1)

/-- A colon with a gap after it is at the front. -/
def atColon (p : Place) : Bool := p.rest.head? = some ':' && atGap (p.rest.drop 1)

/-- The place after blanks in the line. -/
def skipBlanks (p : Place) : Place := p.forward (p.rest.takeWhile (· = ' ')).length

/-- A scalar or a value in brackets, in blocks, and the line ends it takes. -/
def readInline (column : Nat) (p : Place) : Except Fault (Value × Place) :=
  match p.rest.head? with
  | some '[' => readFlow (4 * p.rest.length + 4) p
  | some '\x7b' => readFlow (4 * p.rest.length + 4) p
  | _ => readScalar false column p

/-- Nothing but a comment follows in the line. -/
def endsLine (p : Place) : Bool :=
  let (next, newLine) := skip p
  newLine || next.rest.isEmpty

/-- A key takes one line. -/
def inOneLine (start after : Place) : Bool :=
  let taken := start.rest.take (start.rest.length - after.rest.length)
  !taken.any isEndOfLine && taken.length ≤ 1024

mutual

/-- A value in blocks inside a block at a column, or inside none, and the place after the gap that
follows it. -/
def readBlock : (fuel : Nat) → (parent : Option Nat) → Place → Except Fault (Value × Place)
  | 0, _, p => p.fail
  | fuel + 1, parent, p =>
    if atItem p then readItems fuel p.column [] p
    else do
      let further := parent.elim 0 (· + 1)
      let (v, rest) ← readInline further p
      let next := skipBlanks rest
      if atColon next && inOneLine p rest then readEntries fuel p.column [] p
      else if endsLine rest then return (v, (skip rest).1)
      else next.fail

/-- The items of a list at a column. -/
def readItems : (fuel : Nat) → (column : Nat) → (read : List Value) → Place →
    Except Fault (Value × Place)
  | 0, _, _, p => p.fail
  | fuel + 1, column, read, p =>
    if atItem p && p.column = column then do
      let (next, newLine) := skip (p.forward 1)
      let (v, next) ←
        if next.rest.isEmpty || (newLine && next.column ≤ column) then .ok (.null, next)
        else readBlock fuel (some column) next
      readItems fuel column (v :: read) next
    else if p.rest.isEmpty || p.column < column || (p.column = column && !read.isEmpty) then
      .ok (.list read.reverse, p)
    else p.fail

/-- The entries of a mapping at a column. -/
def readEntries : (fuel : Nat) → (column : Nat) → (read : List (Value × Value)) → Place →
    Except Fault (Value × Place)
  | 0, _, _, p => p.fail
  | fuel + 1, column, read, p =>
    if p.rest.isEmpty || p.column < column || (p.column = column && atDocumentMark p) then
      .ok (.mapping read, p)
    else if p.column ≠ column || atItem p then p.fail
    else do
      let (k, rest) ← readInline (column + 1) p
      let colon := skipBlanks rest
      if atColon colon && inOneLine p rest then
        let (next, newLine) := skip (colon.forward 1)
        let (v, next) ← readEntryValue fuel column newLine next
        readEntries fuel column (← putKey p k v read) next
      else colon.fail

/-- The value of an entry of a mapping at a column. -/
def readEntryValue : (fuel : Nat) → (column : Nat) → (newLine : Bool) → Place →
    Except Fault (Value × Place)
  | 0, _, _, p => p.fail
  | fuel + 1, column, newLine, p =>
    if p.rest.isEmpty then .ok (.null, p)
    else if newLine then
      if column < p.column then readBlock fuel (some column) p
      else if p.column = column && atItem p then readItems fuel column [] p
      else .ok (.null, p)
    else if atItem p then p.fail
    else do
      let (v, rest) ← readInline (column + 1) p
      if endsLine rest then return (v, (skip rest).1) else rest.fail

end

/-- A character that may stand in a document. -/
def isAllowed (c : Char) : Bool :=
  let n := c.toNat
  n = 9 || n = 10 || n = 13 || (0x20 ≤ n && n ≤ 0x7e) || n = 0x85 || (0xa0 ≤ n && n ≤ 0xfffd) ||
    0x10000 ≤ n

/-- The place after the mark that may start a document. -/
def afterStart (p : Place) : Place :=
  let (p, _) := skip p
  if atDocumentMark p && p.rest.head? = some '-' then (skip (p.forward 3)).1 else p

/-- The value of a document; an empty one is null.  Each step takes a character or goes one level
deeper, of which each item has few. -/
def read (s : String) : Except Fault Value :=
  let chars := match s.toList with
    | '\ufeff' :: cs => cs
    | cs => cs
  let start : Place := ⟨chars, 0⟩
  match chars.dropWhile isAllowed with
  | _ :: rest => .error ⟨rest.length + 1⟩
  | [] =>
    let p := afterStart start
    if p.rest.isEmpty || atDocumentMark p then .ok .null
    else
      match readBlock (4 * chars.length + 4) none p with
      | .error e => .error e
      | .ok (v, after) =>
        if after.rest.isEmpty || (atDocumentMark after && after.rest.head? = some '.') then .ok v
        else after.fail

end FlowDiagram.Yaml
