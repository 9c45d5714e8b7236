import FlowDiagram.Transducer

/-! # Tokens of DOT

A text in DOT is cut into ids and marks.  An id is a word, a quoted text or markup.  A quoted text
ends at the first double mark that no backslash takes, and each backslash takes the character after
it; markup ends at the angle bracket that closes the one it begins with.  Both are kept as they are
written.  Blanks separate tokens, and there are no comments.
-/

namespace FlowDiagram.Dot

inductive Id where
  | word (text : String)
  | quoted (text : String)
  | markup (text : String)
deriving DecidableEq, Repr

inductive Token where
  | id (i : Id)
  | arrow | openBrace | closeBrace | openBracket | closeBracket | equals | comma | semicolon
deriving DecidableEq, Repr

/-- What has been read of the token that is being read. -/
inductive Partial where
  | outside
  | word (text : List Char)
  | dash
  | quoted (text : List Char)
  | backslash (text : List Char)
  | markup (depth : Nat) (text : List Char)
deriving DecidableEq, Repr

def isBlank (c : Char) : Bool := c = ' ' || c = '\t' || c = '\n' || c = '\r'

def isWordChar (c : Char) : Bool := c.isAlphanum || c = '_' || 0x80 ≤ c.toNat

/-- The token that a mark is. -/
def mark? : Char → Option Token
  | '{' => some .openBrace
  | '}' => some .closeBrace
  | '[' => some .openBracket
  | ']' => some .closeBracket
  | '=' => some .equals
  | ',' => some .comma
  | ';' => some .semicolon
  | _ => none

/-- Read a character outside of tokens. -/
def beginToken (c : Char) : Option (List Token × Partial) :=
  if isBlank c then some ([], .outside)
  else if isWordChar c then some ([], .word [c])
  else if c = '-' then some ([], .dash)
  else if c = '"' then some ([], .quoted [])
  else if c = '<' then some ([], .markup 0 [])
  else (mark? c).map fun t => ([t], .outside)

def readChar : Partial → Char → Option (List Token × Partial)
  | .outside, c => beginToken c
  | .word text, c =>
    if isWordChar c then some ([], .word (text ++ [c]))
    else (beginToken c).map fun (tokens, begun) => (.id (.word (String.ofList text)) :: tokens, begun)
  | .dash, c => if c = '>' then some ([.arrow], .outside) else none
  | .quoted text, c =>
    if c = '"' then some ([.id (.quoted (String.ofList text))], .outside)
    else if c = '\\' then some ([], .backslash text)
    else some ([], .quoted (text ++ [c]))
  | .backslash text, c => some ([], .quoted (text ++ ['\\', c]))
  | .markup depth text, c =>
    if c = '<' then some ([], .markup (depth + 1) (text ++ [c]))
    else if c = '>' then
      match depth with
      | 0 => some ([.id (.markup (String.ofList text))], .outside)
      | depth + 1 => some ([], .markup depth (text ++ [c]))
    else some ([], .markup depth (text ++ [c]))

def lexer : Transducer Partial Char Token := ⟨readChar⟩

/-- The tokens of a text that breaks off within none. -/
def tokens? (text : String) : Option (List Token) :=
  match lexer.run .outside text.toList with
  | some (tokens, .outside) => some tokens
  | _ => none

/-- The characters of a quoted text, without the backslashes that take them. -/
def takenChars : List Char → List Char
  | '\\' :: c :: s => c :: takenChars s
  | c :: s => c :: takenChars s
  | [] => []

/-- The name that a quoted text gives after the start that names of its sort have. -/
def nameAfter? (start text : String) : Option String :=
  if start.toList.isPrefixOf text.toList then
    some (String.ofList (takenChars (text.toList.drop start.toList.length)))
  else none

end FlowDiagram.Dot
