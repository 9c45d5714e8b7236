/-! # Names of entities

A resource refers to an entity if it is named like it.  Blanks and parentheses do not count, so
`RS (BA)` refers to `RSBA`; an entity of the very same name goes before any other.
-/

namespace FlowDiagram

/-- The name without spaces and parentheses. -/
def normalizeName (name : String) : String :=
  String.ofList (name.toList.filter fun c => c ≠ ' ' && c ≠ '(' && c ≠ ')')

/-- The entity that a resource refers to: the one of the same name, else the first one whose
normalized name is the same. -/
def matchEntity (resource : String) (active : List String) : Option String :=
  if resource ∈ active then some resource
  else active.find? fun name => normalizeName name = normalizeName resource

end FlowDiagram
