import FlowDiagram.Decimal.Binary
import FlowDiagram.Text.Lines
import FlowDiagram.Text.Printable
import FlowDiagram.Text.Numeral
import FlowDiagram.Value.Basic
import FlowDiagram.Value.NumberText

/-! # Tokens of expressions

The text of an expression is cut into numbers, quoted texts, names and symbols.  Blanks and
comments separate tokens.  A line ends where no bracket is open, and a line after that must not be
indented; empty lines do not count.
-/

namespace FlowDiagram.Expression

inductive Symbol where
  | openParen | closeParen | openBracket | closeBracket | openBrace | closeBrace
  | comma | colon
  | plus | minus | star | slash | doubleSlash | percent
  | less | lessOrEqual | greater | greaterOrEqual | equal | notEqual
deriving DecidableEq, Repr

inductive Token where
  | constant (v : Value)
  | text (s : String)
  | name (s : String)
  | symbol (s : Symbol)
  | lineEnd

def isNameStart (c : Char) : Bool :=
  ('a' ≤ c && c ≤ 'z') || ('A' ≤ c && c ≤ 'Z') || c = '_' || (0x80 ≤ c.toNat && Text.isPrintable c)

def isNameChar (c : Char) : Bool := isNameStart c || Text.isAsciiDigit c

/-- The digits at the front of a text, without the underscores between them, and the rest. -/
def digitRun (isDigit : Char → Bool) : List Char → List Char × List Char
  | [] => ([], [])
  | [c] => if isDigit c then ([c], []) else ([], [c])
  | c :: '_' :: s =>
    if isDigit c then
      match digitRun isDigit s with
      | ([], _) => ([c], '_' :: s)
      | (digits, rest) => (c :: digits, rest)
    else ([], c :: '_' :: s)
  | c :: d :: s =>
    if isDigit c then
      let (digits, rest) := digitRun isDigit (d :: s)
      (c :: digits, rest)
    else ([], c :: d :: s)

/-- The power of ten at the front of a text, if an exponent mark and digits are there. -/
def readExponent? : List Char → Option (Int × List Char)
  | c :: s =>
    if c = 'e' || c = 'E' then
      let (negative, s) := Value.readSign s
      match digitRun Text.isAsciiDigit s with
      | ([], _) => none
      | (digits, rest) =>
        let n : Int := Text.numeralValue 10 digits
        some (if negative then -n else n, rest)
    else none
  | [] => none

/-- The decimal number at the front of a text, a double if it has a point or an exponent.  A whole
number other than zero does not start with a zero. -/
def readDecimal? (s : List Char) : Option (Value × List Char) :=
  let (whole, s) := digitRun Text.isAsciiDigit s
  let (point, places, s) := match s with
    | '.' :: r =>
      let (places, rest) := digitRun Text.isAsciiDigit r
      (true, places, rest)
    | s => (false, [], s)
  match point, readExponent? s with
  | false, none =>
    if whole.head? = some '0' && whole.any (· ≠ '0') then none
    else some (.int (Text.numeralValue 10 whole), s)
  | _, power =>
    let exponent := (power.map Prod.fst).getD 0 - places.length
    some (.float (Decimal.floatOfDecimal false (Text.numeralValue 10 (whole ++ places)) exponent),
      (power.map Prod.snd).getD s)

/-- The number at the front of a text. -/
def readNumber? (s : List Char) : Option (Value × List Char) :=
  match s with
  | '0' :: m :: r =>
    match Value.baseMark? m with
    | some base =>
      let r := if r.head? = some '_' then r.drop 1 else r
      match digitRun (Text.isDigitIn base) r with
      | ([], _) => none
      | (digits, rest) => some (.int (Text.numeralValue base digits), rest)
    | none => readDecimal? s
  | _ => readDecimal? s

/-- The character that a letter after a backslash names. -/
def namedEscape? : Char → Option Char
  | '\\' => some '\\'
  | '\'' => some '\''
  | '"' => some '"'
  | 'a' => some '\x07'
  | 'b' => some '\x08'
  | 'f' => some '\x0c'
  | 'n' => some '\n'
  | 'r' => some '\r'
  | 't' => some '\t'
  | 'v' => some '\x0b'
  | _ => none

def codePointWidth? : Char → Option Nat
  | 'x' => some 2
  | 'u' => some 4
  | 'U' => some 8
  | _ => none

def isOctal (c : Char) : Bool := '0' ≤ c && c ≤ '7'

/-- The character of a code point. -/
def charOfCodePoint? (n : Nat) : Option Char := if n.isValidChar then some (Char.ofNat n) else none

/-- What an escape after its backslash stands for, and the rest.  A backslash before any other
character stands for itself. -/
def readEscape? (c : Char) (s : List Char) : Option (List Char × List Char) :=
  if c = '\n' then some ([], s)
  else
    match namedEscape? c, codePointWidth? c with
    | some d, _ => some ([d], s)
    | none, some width => do
      let digits := s.take width
      guard (digits.length = width && digits.all (Text.isDigitIn 16))
      some ([← charOfCodePoint? (Text.numeralValue 16 digits)], s.drop width)
    | none, none =>
      if isOctal c then do
        let more := (s.take 2).takeWhile isOctal
        some ([← charOfCodePoint? (Text.numeralValue 8 (c :: more))], s.drop more.length)
      else some (['\\', c], s)

/-- The text up to the closing mark, and the rest. -/
def readQuoted? (mark : Char) : (fuel : Nat) → List Char → Option (List Char × List Char)
  | 0, _ => none
  | _ + 1, [] => none
  | fuel + 1, '\\' :: c :: s => do
    let (chars, s) ← readEscape? c s
    let (more, rest) ← readQuoted? mark fuel s
    some (chars ++ more, rest)
  | fuel + 1, c :: s =>
    if c = mark then some ([], s)
    else if c = '\n' then none
    else (readQuoted? mark fuel s).map fun (more, rest) => (c :: more, rest)

/-- The text up to three closing marks, and the rest; line feeds may stand in it. -/
def readTripleQuoted? (mark : Char) : (fuel : Nat) → List Char → Option (List Char × List Char)
  | 0, _ => none
  | _ + 1, [] => none
  | fuel + 1, '\\' :: c :: s => do
    let (chars, s) ← readEscape? c s
    let (more, rest) ← readTripleQuoted? mark fuel s
    some (chars ++ more, rest)
  | fuel + 1, c :: s =>
    if [mark, mark, mark].isPrefixOf (c :: s) then some ([], s.drop 2)
    else (readTripleQuoted? mark fuel s).map fun (more, rest) => (c :: more, rest)

/-- The text whose first mark has been read, and the rest. -/
def readText? (mark : Char) (s : List Char) : Option (List Char × List Char) :=
  if [mark, mark].isPrefixOf s then readTripleQuoted? mark s.length (s.drop 2)
  else readQuoted? mark (s.length + 1) s

/-- The symbol at the front of a text. -/
def readSymbol? : List Char → Option (Symbol × List Char)
  | '/' :: '/' :: s => some (.doubleSlash, s)
  | '<' :: '=' :: s => some (.lessOrEqual, s)
  | '>' :: '=' :: s => some (.greaterOrEqual, s)
  | '=' :: '=' :: s => some (.equal, s)
  | '!' :: '=' :: s => some (.notEqual, s)
  | '*' :: '*' :: _ => none
  | '<' :: '<' :: _ => none
  | '>' :: '>' :: _ => none
  | '(' :: s => some (.openParen, s)
  | ')' :: s => some (.closeParen, s)
  | '[' :: s => some (.openBracket, s)
  | ']' :: s => some (.closeBracket, s)
  | '\x7b' :: s => some (.openBrace, s)
  | '\x7d' :: s => some (.closeBrace, s)
  | ',' :: s => some (.comma, s)
  | ':' :: s => some (.colon, s)
  | '+' :: s => some (.plus, s)
  | '-' :: s => some (.minus, s)
  | '*' :: s => some (.star, s)
  | '/' :: s => some (.slash, s)
  | '%' :: s => some (.percent, s)
  | '<' :: s => some (.less, s)
  | '>' :: s => some (.greater, s)
  | _ => none

def Symbol.opens : Symbol → Bool
  | openParen | openBracket | openBrace => true
  | _ => false

def Symbol.closes : Symbol → Bool
  | closeParen | closeBracket | closeBrace => true
  | _ => false

def isSpace (c : Char) : Bool := c = ' ' || c = '\t' || c = '\x0c'

/-- The line that a text starts is empty or not indented.  A form feed takes an indentation back,
and blanks at the very end of the text are an indentation. -/
def wellIndented : (indented : Bool) → List Char → Bool
  | indented, [] => !indented
  | indented, c :: s =>
    if c = ' ' || c = '\t' then wellIndented true s
    else if c = '\x0c' then wellIndented false s
    else c = '\n' || c = '#' || !indented

def readWord (s : List Char) : String × List Char :=
  (String.ofList (s.takeWhile isNameChar), s.dropWhile isNameChar)

def startsNumber : List Char → Bool
  | '.' :: c :: _ => Text.isAsciiDigit c
  | c :: _ => Text.isAsciiDigit c
  | [] => false

/-- The token at the front of a text that starts with neither a blank nor a comment nor a line
feed, and the rest. -/
def readToken? (s : List Char) : Option (Token × List Char) :=
  match s with
  | [] => none
  | c :: r =>
    if startsNumber s then (readNumber? s).map fun (v, rest) => (.constant v, rest)
    else if c = '"' || c = '\'' then
      (readText? c r).map fun (cs, rest) => (.text (String.ofList cs), rest)
    else if isNameStart c then
      let (word, rest) := readWord s
      some (.name word, rest)
    else (readSymbol? s).map fun (m, rest) => (.symbol m, rest)

/-- The count of open brackets after a token. -/
def depthAfter (depth : Nat) : Token → Nat
  | .symbol m => if m.opens then depth + 1 else if m.closes then depth - 1 else depth
  | _ => depth

/-- The tokens of a text in which `depth` brackets are open.  Each step takes a character. -/
def tokensFrom : (fuel : Nat) → (depth : Nat) → List Char → Option (List Token)
  | _, _, [] => some []
  | 0, _, _ => none
  | fuel + 1, depth, c :: s =>
    if isSpace c then tokensFrom fuel depth s
    else if c = '#' then tokensFrom fuel depth (s.dropWhile (· ≠ '\n'))
    else if c = '\n' then
      if depth ≠ 0 then tokensFrom fuel depth s
      else if wellIndented false s then (tokensFrom fuel depth s).map (.lineEnd :: ·)
      else none
    else do
      let (token, rest) ← readToken? (c :: s)
      let tokens ← tokensFrom fuel (depthAfter depth token) rest
      some (token :: tokens)

/-- The tokens of a text.  Blanks at its very start are no indentation. -/
def tokens? (s : String) : Option (List Token) :=
  let cs := Text.plainLines (s.toList.dropWhile fun c => c = ' ' || c = '\t')
  if cs.contains '\x00' || !wellIndented false cs then none else tokensFrom cs.length 0 cs

end FlowDiagram.Expression
