/-! # Blank characters

A character is blank if it separates words: Unicode white space and the four information
separators.  Trimming takes the blanks off both ends of a text and off nothing else.
-/

namespace FlowDiagram.Text

/-- The code points between two bounds, the bounds included. -/
structure CodeRange where
  first : Nat
  last : Nat

def CodeRange.contains (r : CodeRange) (c : Char) : Bool :=
  r.first ≤ c.toNat && c.toNat ≤ r.last

def blankRanges : List CodeRange :=
  [⟨0x9, 0xd⟩, ⟨0x1c, 0x20⟩, ⟨0x85, 0x85⟩, ⟨0xa0, 0xa0⟩, ⟨0x1680, 0x1680⟩, ⟨0x2000, 0x200a⟩,
    ⟨0x2028, 0x2029⟩, ⟨0x202f, 0x202f⟩, ⟨0x205f, 0x205f⟩, ⟨0x3000, 0x3000⟩]

def isBlank (c : Char) : Bool := blankRanges.any (·.contains c)

/-- The text without the blanks at its left end. -/
def trimLeft (s : List Char) : List Char := s.dropWhile isBlank

/-- The text without the blanks at its right end. -/
def trimRight (s : List Char) : List Char := (trimLeft s.reverse).reverse

/-- The text without the blanks at its two ends. -/
def trim (s : List Char) : List Char := trimRight (trimLeft s)

theorem isBlank_newline : isBlank '\n' = true := by decide

theorem isBlank_equals : isBlank '=' = false := by decide

@[simp] theorem trimLeft_nil : trimLeft [] = [] := rfl

theorem trimLeft_cons (c : Char) (s : List Char) :
    trimLeft (c :: s) = if isBlank c then trimLeft s else c :: s := by
  simp only [trimLeft, List.dropWhile_cons]

/-- What is left of a text starts with no blank. -/
theorem head_trimLeft {c : Char} {r : List Char} :
    (s : List Char) → trimLeft s = c :: r → isBlank c = false
  | [], h => by simp at h
  | d :: s, h => by
    rw [trimLeft_cons] at h
    split at h
    · exact head_trimLeft s h
    · next hd =>
      cases h
      simpa using hd

end FlowDiagram.Text
