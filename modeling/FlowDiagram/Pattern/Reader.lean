import FlowDiagram.Pattern.Basic

/-! # Reading patterns

A point stands for any character of a line, brackets for a set of characters, parentheses for a
group and a bar for a choice; a star, a plus or a question mark repeats what stands before it, and
a question mark after that changes nothing about what matches.  A pattern is bad if there is nothing
to repeat, if a repetition is repeated, if a set or a group is not closed, or if a range runs
backwards.  Classes of characters, counts in braces and extended groups are not read.
-/

namespace FlowDiagram.Pattern

/-- One item of a sequence, with what decides whether it can be repeated. -/
inductive Item where
  | place (p : Pattern)
  | repetition (p : Pattern)
  | piece (p : Pattern)

def Item.pattern : Item → Pattern
  | place p => p
  | repetition p => p
  | piece p => p

def Item.repeatable? : Item → Option Pattern
  | piece p => some p
  | _ => none

/-- The items of a sequence, the last first, as one pattern. -/
def ofItems (items : List Item) : Pattern :=
  items.foldl (fun after item => .seq item.pattern after) .empty

/-- The character that stands for itself after a backslash; letters and digits do not. -/
def escaped? (c : Char) : Option Char := if c.isAlphanum then none else some c

/-- A character of a set, and the rest; none if a backslash ends the text. -/
def setChar? : List Char → Option (Char × List Char)
  | '\\' :: c :: s => (escaped? c).map fun c => (c, s)
  | '\\' :: [] => none
  | c :: s => some (c, s)
  | [] => none

/-- The ranges of a set up to its closing bracket, and the rest. -/
def readRanges : (fuel : Nat) → (first : Bool) → List Char →
    Option (List Text.CodeRange × List Char)
  | 0, _, _ => none
  | fuel + 1, first, s =>
    match s, first with
    | ']' :: rest, false => some ([], rest)
    | _, _ => do
      let (low, s) ← setChar? s
      let single : Text.CodeRange := ⟨low.toNat, low.toNat⟩
      match s with
      | '-' :: ']' :: rest => some ([single, ⟨0x2d, 0x2d⟩], rest)
      | '-' :: s =>
        let (high, s) ← setChar? s
        guard (low.toNat ≤ high.toNat)
        let (ranges, rest) ← readRanges fuel false s
        some (⟨low.toNat, high.toNat⟩ :: ranges, rest)
      | s =>
        let (ranges, rest) ← readRanges fuel false s
        some (single :: ranges, rest)

def readSet? (s : List Char) : Option (CharSet × List Char) :=
  let (negated, s) := match s with
    | '^' :: s => (true, s)
    | s => (false, s)
  (readRanges (s.length + 1) true s).map fun (ranges, rest) => (⟨negated, ranges⟩, rest)

/-- What a repetition mark makes of a pattern. -/
def repeated? (p : Pattern) : Char → Option Pattern
  | '*' => some (.star p)
  | '+' => some p.plus
  | '?' => some p.optional
  | _ => none

def isRepetitionMark (c : Char) : Bool := c = '*' || c = '+' || c = '?'

/-- The rest after a mark that changes nothing about what a repetition matches. -/
def skipManner : List Char → List Char
  | '?' :: s => s
  | s => s

mutual

/-- A choice of sequences, up to a closing parenthesis or the end. -/
def readChoice : (fuel : Nat) → List Char → Option (Pattern × List Char)
  | 0, _ => none
  | fuel + 1, s => do
    let (p, rest) ← readSequence fuel [] s
    match rest with
    | '|' :: s =>
      let (q, rest) ← readChoice fuel s
      some (.either p q, rest)
    | _ => some (p, rest)

/-- A sequence from the next item on; `read` holds the items so far, the last first. -/
def readSequence : (fuel : Nat) → (read : List Item) → List Char → Option (Pattern × List Char)
  | 0, _, _ => none
  | fuel + 1, read, s =>
    match s with
    | [] => some (ofItems read, [])
    | '|' :: _ => some (ofItems read, s)
    | ')' :: _ => some (ofItems read, s)
    | '.' :: s => readSequence fuel (.piece (.char .ofLine) :: read) s
    | '^' :: s => readSequence fuel (.place .start :: read) s
    | '$' :: s => readSequence fuel (.place .finish :: read) s
    | '[' :: s => do
      let (set, s) ← readSet? s
      readSequence fuel (.piece (.char set) :: read) s
    | '(' :: s => do
      let s := match s with
        | '?' :: ':' :: inner => inner
        | s => s
      let (p, s) ← readChoice fuel s
      match s with
      | ')' :: s => readSequence fuel (.piece p :: read) s
      | _ => none
    | '\x7b' :: _ => none
    | '\\' :: [] => none
    | '\\' :: c :: s => do
      readSequence fuel (.piece (.char (.only (← escaped? c))) :: read) s
    | c :: s =>
      if isRepetitionMark c then
        match read with
        | [] => none
        | item :: before => do
          let p ← repeated? (← item.repeatable?) c
          readSequence fuel (.repetition p :: before) (skipManner s)
      else readSequence fuel (.piece (.char (.only c)) :: read) s

end

/-- The pattern that a text describes.  Each pair of steps takes at least one character, which
bounds the steps. -/
def read? (s : String) : Option Pattern := do
  let (p, rest) ← readChoice (2 * s.length + 2) s.toList
  guard rest.isEmpty
  some p

end FlowDiagram.Pattern
