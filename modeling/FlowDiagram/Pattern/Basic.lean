import FlowDiagram.Text.Blank

/-! # Patterns

A pattern describes pieces of a text.  Matching gives, for a set of places in the text, the places
at which a piece that starts at one of them may end.
-/

namespace FlowDiagram

/-- A set of characters: single ones and ranges, or all others. -/
structure CharSet where
  negated : Bool
  ranges : List Text.CodeRange

def CharSet.contains (s : CharSet) (c : Char) : Bool := s.ranges.any (·.contains c) != s.negated

def CharSet.only (c : Char) : CharSet := ⟨false, [⟨c.toNat, c.toNat⟩]⟩

/-- Every character but a line feed. -/
def CharSet.ofLine : CharSet := ⟨true, [⟨10, 10⟩]⟩

inductive Pattern where
  | empty
  | char (s : CharSet)
  | start
  | finish
  | seq (p q : Pattern)
  | either (p q : Pattern)
  | star (p : Pattern)

namespace Pattern

def plus (p : Pattern) : Pattern := .seq p (.star p)

def optional (p : Pattern) : Pattern := .either p .empty

/-- The places of two lists, each once. -/
def joinPlaces (xs ys : List Nat) : List Nat := xs ++ ys.filter (· ∉ xs)

/-- The text ends at a place, or does so after one more line feed. -/
def atFinish (text : List Char) (place : Nat) : Bool :=
  text.drop place = [] || text.drop place = ['\n']

/-- The places at which a piece from one of the given places may end.  A text of `n` characters
has `n + 1` places, so a repetition has reached all it can after as many rounds. -/
def ends (text : List Char) : Pattern → List Nat → List Nat
  | empty, places => places
  | char s, places =>
    places.filterMap fun i => (text[i]?).bind fun c => if s.contains c then some (i + 1) else none
  | start, places => places.filter (· = 0)
  | finish, places => places.filter (atFinish text)
  | seq p q, places => ends text q (ends text p places)
  | either p q, places => joinPlaces (ends text p places) (ends text q places)
  | star p, places =>
    (List.range (text.length + 1)).foldl (fun found _ => joinPlaces found (ends text p found)) places

/-- The pattern matches a piece at the start of a text. -/
def matchesStart (p : Pattern) (text : String) : Bool := !(ends text.toList p [0]).isEmpty

end Pattern

end FlowDiagram
