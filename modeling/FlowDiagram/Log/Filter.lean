import FlowDiagram.Value.Basic
import FlowDiagram.Value.Fault

/-! # What a log admits

A message has a level and a scope.  A log admits it if its level is not past the log's own and its
scope is one that some included pattern matches and no excluded one does.  How patterns are written,
and how the format of a log is filled, is left to a dialect.
-/

namespace FlowDiagram.Log

inductive Level where
  | error | warning | info | debug
deriving DecidableEq, Repr

namespace Level

def rank : Level → Nat
  | error => 1
  | warning => 2
  | info => 3
  | debug => 4

def name : Level → String
  | error => "ERROR"
  | warning => "WARNING"
  | info => "INFO"
  | debug => "DEBUG"

def all : List Level := [error, warning, info, debug]

def ofName? (s : String) : Option Level := all.find? fun l => l.name = s

end Level

/-- What a pattern says of a scope: whether it matches at the start. -/
abbrev Pattern := String → Bool

/-- How the patterns and the format of a log are understood. -/
structure Dialect where
  /-- The pattern that a value is, unless it is a bad one. -/
  pattern : Value → Except Raised Pattern
  /-- The text of a format with a level and a scope in it. -/
  fill (format level scope : String) : Except Raised String

structure Filter where
  level : Level
  includes : List Pattern
  excludes : List Pattern

namespace Filter

def admitsScope (f : Filter) (scope : String) : Bool :=
  (f.includes.any fun p => p scope) && !(f.excludes.any fun p => p scope)

def admitsLevel (f : Filter) (level : Level) : Bool := level.rank ≤ f.level.rank

def admits (f : Filter) (scope : String) (level : Level) : Bool :=
  f.admitsLevel level && f.admitsScope scope

end Filter

end FlowDiagram.Log
