/-! # Names and markup in DOT

A quoted name ends at the first double mark that no backslash takes, so the marks and backslashes
of a name follow a backslash each.  Markup stands between angle brackets that balance, and the
three characters that could be taken for a tag or an entity are written as entities.
-/

namespace FlowDiagram.Dot

def escapedChar (c : Char) : List Char := if c = '"' || c = '\\' then ['\\', c] else [c]

/-- A name as it stands inside a quoted text. -/
def escaped (s : String) : String := String.ofList (s.toList.flatMap escapedChar)

def markupChar (c : Char) : List Char :=
  if c = '&' then ['&', 'a', 'm', 'p', ';']
  else if c = '<' then ['&', 'l', 't', ';']
  else if c = '>' then ['&', 'g', 't', ';']
  else [c]

/-- A name as it stands inside markup. -/
def markup (s : String) : String := String.ofList (s.toList.flatMap markupChar)

def quoted (s : String) : String := "\"" ++ s ++ "\""

end FlowDiagram.Dot
