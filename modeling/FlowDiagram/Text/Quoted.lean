import FlowDiagram.Text.Numeral
import FlowDiagram.Text.Printable

/-! # Quoted text

A quoted text stands between two marks, single ones unless the text holds a single mark and no
double one.  Inside, the backslash and the mark in use follow a backslash; line feed, carriage
return and tab have names; every other unprintable character is written by its code point.
-/

namespace FlowDiagram.Text

/-- The mark that needs fewer escapes, a single one when both need some. -/
def quoteMark (s : List Char) : Char :=
  if s.contains '\'' && !s.contains '"' then '"' else '\''

/-- A character by its code point, in the shortest of the three forms that hold it. -/
def codePointEscape (c : Char) : List Char :=
  let n := c.toNat
  if n < 0x100 then '\\' :: 'x' :: paddedNumeral 16 2 n
  else if n < 0x10000 then '\\' :: 'u' :: paddedNumeral 16 4 n
  else '\\' :: 'U' :: paddedNumeral 16 8 n

def quotedChar (mark c : Char) : List Char :=
  if c = mark || c = '\\' then ['\\', c]
  else if c = '\n' then ['\\', 'n']
  else if c = '\r' then ['\\', 'r']
  else if c = '\t' then ['\\', 't']
  else if isPrintable c then [c]
  else codePointEscape c

def quotedChars (s : List Char) : List Char :=
  let mark := quoteMark s
  mark :: (s.flatMap (quotedChar mark) ++ [mark])

/-- The text between quote marks, with escapes. -/
def quoted (s : String) : String := String.ofList (quotedChars s.toList)

end FlowDiagram.Text
