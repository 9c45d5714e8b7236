import FlowDiagram.Expression.Basic
import FlowDiagram.Expression.Token

/-! # Reading expressions

From the weakest to the strongest, what binds the parts of an expression are `or`, `and`, `not`,
comparisons, sums, products, signs and calls.  Commas outside brackets make a tuple, texts that
stand side by side are one text, and nothing may follow the expression but line ends.
-/

namespace FlowDiagram.Expression

/-- The words that cannot be names. -/
def reservedWords : List String :=
  ["False", "None", "True", "and", "as", "assert", "async", "await", "break", "class", "continue",
    "def", "del", "elif", "else", "except", "finally", "for", "from", "global", "if", "import",
    "in", "is", "lambda", "nonlocal", "not", "or", "pass", "raise", "return", "try", "while",
    "with", "yield"]

/-- What a word stands for; none for a reserved word without a value. -/
def ofWord? (word : String) : Option Expression :=
  if word = "None" then some (.constant .null)
  else if word = "True" then some (.constant (.bool true))
  else if word = "False" then some (.constant (.bool false))
  else if word ∈ reservedWords then none
  else some (.name word)

def comparisonOf? : Symbol → Option Comparison
  | .less => some .less
  | .lessOrEqual => some .lessOrEqual
  | .greater => some .greater
  | .greaterOrEqual => some .greaterOrEqual
  | .equal => some .equal
  | .notEqual => some .notEqual
  | _ => none

def sumOperator? : Symbol → Option Operator
  | .plus => some .add
  | .minus => some .subtract
  | _ => none

def productOperator? : Symbol → Option Operator
  | .star => some .multiply
  | .slash => some .divide
  | .doubleSlash => some .floorDivide
  | .percent => some .modulo
  | _ => none

/-- The texts at the front, joined, and the rest. -/
def joinTexts : List Token → String × List Token
  | .text s :: ts =>
    let (more, rest) := joinTexts ts
    (s ++ more, rest)
  | ts => ("", ts)

/-- An expression read from the front of some tokens, and the rest. -/
abbrev Found := Option (Expression × List Token)

/-- Items in parentheses: without a comma after it, a single one stands for itself. -/
def grouped : List Expression → (trailingComma : Bool) → Expression
  | [e], false => e
  | items, _ => .tuple items

mutual

def readOr : (fuel : Nat) → List Token → Found
  | 0, _ => none
  | fuel + 1, ts => do
    let (a, rest) ← readAnd fuel ts
    match rest with
    | .name "or" :: rest =>
      let (b, rest) ← readOr fuel rest
      some (.or a b, rest)
    | _ => some (a, rest)

def readAnd : (fuel : Nat) → List Token → Found
  | 0, _ => none
  | fuel + 1, ts => do
    let (a, rest) ← readNot fuel ts
    match rest with
    | .name "and" :: rest =>
      let (b, rest) ← readAnd fuel rest
      some (.and a b, rest)
    | _ => some (a, rest)

def readNot : (fuel : Nat) → List Token → Found
  | 0, _ => none
  | fuel + 1, ts =>
    match ts with
    | .name "not" :: rest => (readNot fuel rest).map fun (e, rest) => (.not e, rest)
    | _ => do
      let (a, rest) ← readSum fuel ts
      let (comparisons, rest) ← readComparisons fuel rest
      some (if comparisons.isEmpty then a else .compare a comparisons, rest)

/-- The comparisons that follow a sum. -/
def readComparisons : (fuel : Nat) → List Token →
    Option (List (Comparison × Expression) × List Token)
  | 0, _ => none
  | fuel + 1, ts =>
    match ts with
    | .symbol m :: rest =>
      match comparisonOf? m with
      | some c => do
        let (e, rest) ← readSum fuel rest
        let (more, rest) ← readComparisons fuel rest
        some ((c, e) :: more, rest)
      | none => some ([], ts)
    | _ => some ([], ts)

def readSum : (fuel : Nat) → List Token → Found
  | 0, _ => none
  | fuel + 1, ts => do
    let (a, rest) ← readProduct fuel ts
    readSumAfter fuel a rest

/-- The terms that follow in a sum. -/
def readSumAfter : (fuel : Nat) → Expression → List Token → Found
  | 0, _, _ => none
  | fuel + 1, a, ts =>
    match ts with
    | .symbol m :: rest =>
      match sumOperator? m with
      | some o => do
        let (b, rest) ← readProduct fuel rest
        readSumAfter fuel (.compute o a b) rest
      | none => some (a, ts)
    | _ => some (a, ts)

def readProduct : (fuel : Nat) → List Token → Found
  | 0, _ => none
  | fuel + 1, ts => do
    let (a, rest) ← readSigned fuel ts
    readProductAfter fuel a rest

/-- The factors that follow in a product. -/
def readProductAfter : (fuel : Nat) → Expression → List Token → Found
  | 0, _, _ => none
  | fuel + 1, a, ts =>
    match ts with
    | .symbol m :: rest =>
      match productOperator? m with
      | some o => do
        let (b, rest) ← readSigned fuel rest
        readProductAfter fuel (.compute o a b) rest
      | none => some (a, ts)
    | _ => some (a, ts)

def readSigned : (fuel : Nat) → List Token → Found
  | 0, _ => none
  | fuel + 1, ts =>
    match ts with
    | .symbol .minus :: rest => (readSigned fuel rest).map fun (e, rest) => (.negate e, rest)
    | .symbol .plus :: rest => (readSigned fuel rest).map fun (e, rest) => (.unsigned e, rest)
    | _ => do
      let (f, rest) ← readAtom fuel ts
      readCalls fuel f rest

/-- The calls that follow a function. -/
def readCalls : (fuel : Nat) → Expression → List Token → Found
  | 0, _, _ => none
  | fuel + 1, f, ts =>
    match ts with
    | .symbol .openParen :: rest => do
      let (args, _, rest) ← readItems fuel .closeParen rest
      readCalls fuel (.call f args) rest
    | _ => some (f, ts)

def readAtom : (fuel : Nat) → List Token → Found
  | 0, _ => none
  | fuel + 1, ts =>
    match ts with
    | .constant v :: rest => some (.constant v, rest)
    | .name word :: rest => (ofWord? word).map fun e => (e, rest)
    | .text _ :: _ =>
      let (s, rest) := joinTexts ts
      some (.constant (.text s), rest)
    | .symbol .openParen :: rest =>
      (readItems fuel .closeParen rest).map fun (items, trailing, rest) =>
        (grouped items trailing, rest)
    | .symbol .openBracket :: rest =>
      (readItems fuel .closeBracket rest).map fun (items, _, rest) => (.list items, rest)
    | .symbol .openBrace :: rest =>
      (readEntries fuel rest).map fun (entries, rest) => (.mapping entries, rest)
    | _ => none

/-- Items up to a closing symbol, whether a comma stands before it, and the rest. -/
def readItems : (fuel : Nat) → (closing : Symbol) → List Token →
    Option (List Expression × Bool × List Token)
  | 0, _, _ => none
  | fuel + 1, closing, ts =>
    match ts with
    | .symbol m :: rest =>
      if m = closing then some ([], false, rest) else readSomeItems fuel closing ts
    | _ => readSomeItems fuel closing ts

/-- At least one item, up to a closing symbol. -/
def readSomeItems : (fuel : Nat) → (closing : Symbol) → List Token →
    Option (List Expression × Bool × List Token)
  | 0, _, _ => none
  | fuel + 1, closing, ts => do
    let (e, rest) ← readOr fuel ts
    match rest with
    | .symbol .comma :: .symbol m :: rest' =>
      if m = closing then some ([e], true, rest')
      else
        let (more, trailing, rest) ← readSomeItems fuel closing (.symbol m :: rest')
        some (e :: more, trailing, rest)
    | .symbol .comma :: rest =>
      let (more, trailing, rest) ← readSomeItems fuel closing rest
      some (e :: more, trailing, rest)
    | .symbol m :: rest => if m = closing then some ([e], false, rest) else none
    | _ => none

/-- The entries of a mapping up to its closing brace, and the rest. -/
def readEntries : (fuel : Nat) → List Token → Option (List (Expression × Expression) × List Token)
  | 0, _ => none
  | fuel + 1, ts =>
    match ts with
    | .symbol .closeBrace :: rest => some ([], rest)
    | _ => do
      let (k, rest) ← readOr fuel ts
      match rest with
      | .symbol .colon :: rest =>
        let (e, rest) ← readOr fuel rest
        match rest with
        | .symbol .comma :: rest =>
          let (more, rest) ← readEntries fuel rest
          some ((k, e) :: more, rest)
        | .symbol .closeBrace :: rest => some ([(k, e)], rest)
        | _ => none
      | _ => none

end

def isLineEnd : Token → Bool
  | .lineEnd => true
  | _ => false

/-- The expression of a whole line of tokens, a tuple if there are commas.  On the way to its next
token an expression passes at most a dozen levels. -/
def ofTokens? (ts : List Token) : Option Expression :=
  let line := (ts.dropWhile isLineEnd).takeWhile (!isLineEnd ·)
  let after := (ts.dropWhile isLineEnd).dropWhile (!isLineEnd ·)
  if after.all isLineEnd then
    let fuel := 12 * (line.length + 2)
    match readSomeItems fuel .closeParen (line ++ [.symbol .closeParen]) with
    | some (items, trailing, []) => some (grouped items trailing)
    | _ => none
  else none

/-- The expression that a text writes. -/
def read? (s : String) : Option Expression := do ofTokens? (← tokens? s)

/-- The value of the expression that a text writes; none if it has none. -/
def evaluate? (room : Nat) (names : String → Option Value) (s : String) : Option Value := do
  (eval room names (← read? s)).toOption

end FlowDiagram.Expression
