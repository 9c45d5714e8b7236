import FlowDiagram.Text.Digit

/-! # Flags of the command line

A flag has names, takes a fixed number of words after it, and may be abbreviated: a long name to
any start of it that no other name has, and a short one joined with its word.
-/

namespace FlowDiagram.CommandLine

inductive Flag where
  | help | output | scenario | description | handlers | drawing | log | set
deriving DecidableEq, Repr

namespace Flag

def all : List Flag := [help, output, scenario, description, handlers, drawing, log, set]

/-- The names of a flag, in the order in which messages give them. -/
def names : Flag → List String
  | help => ["-h", "--help"]
  | output => ["--output", "-o"]
  | scenario => ["--scenario"]
  | description => ["--description"]
  | handlers => ["--handlers"]
  | drawing => ["--dot"]
  | log => ["--log"]
  | set => ["--set", "-s"]

/-- The number of words that a flag takes. -/
def arity : Flag → Nat
  | help => 0
  | output => 1
  | scenario => 1
  | description => 1
  | handlers => 1
  | drawing => 1
  | log => 0
  | set => 2

/-- The flag as messages name it. -/
def title (f : Flag) : String := "/".intercalate f.names

end Flag

/-- The names of all flags with the flags. -/
def flagNames : List (String × Flag) := Flag.all.flatMap fun f => f.names.map fun n => (n, f)

def flagNamed? (name : String) : Option Flag := (flagNames.find? fun n => n.1 = name).map Prod.snd

/-- A flag as it is used, with the word that is joined to its name, and whether an equality sign
joins them. -/
structure Use where
  flag : Flag
  joined : Option String
  bySign : Bool
deriving DecidableEq, Repr

/-- What a word of the command line is. -/
inductive Word where
  | argument
  | separator
  | use (u : Use)
  | unknownFlag
  | ambiguous (names : List String)
deriving DecidableEq, Repr

/-- The parts of a word before and after its first equality sign. -/
def splitSign (word : List Char) : List Char × Option (List Char) :=
  match word.span (· ≠ '=') with
  | (before, _ :: after) => (before, some after)
  | (before, []) => (before, none)

def startsWith (name : String) (s : List Char) : Bool := s.isPrefixOf name.toList

/-- The uses that a word with two hyphens may abbreviate, with the names in full. -/
def longUses (word : List Char) : List (String × Use) :=
  let (before, after) := splitSign word
  (flagNames.filter fun n => startsWith n.1 before).map fun n =>
    (n.1, ⟨n.2, after.map String.ofList, after.isSome⟩)

/-- The uses that a word with one hyphen may mean: a short name joined with a word, or the start of
a name. -/
def shortUses (word : List Char) : List (String × Use) :=
  flagNames.filterMap fun n =>
    if n.1.toList = word.take 2 then some (n.1, ⟨n.2, some (String.ofList (word.drop 2)), false⟩)
    else if startsWith n.1 word then some (n.1, ⟨n.2, none, false⟩)
    else none

/-- The word is a negative number, with the decimal digits of any script.  A line feed may end it. -/
def isNegativeNumber : List Char → Bool
  | '-' :: s =>
    let (whole, rest) := s.span isDecimal
    match withoutLineFeed rest with
    | [] => !whole.isEmpty
    | '.' :: places => !places.isEmpty && places.all isDecimal
    | _ => false
  | _ => false
where
  isDecimal (c : Char) : Bool := (Text.decimalValue? c).isSome
  withoutLineFeed (s : List Char) : List Char :=
    if s.getLast? = some '\n' then s.dropLast else s

/-- What a word is, unless it separates flags from arguments. -/
def classify (word : String) : Word :=
  let cs := word.toList
  match cs with
  | '-' :: c :: _ =>
    let (before, after) := splitSign cs
    match flagNamed? word, flagNamed? (String.ofList before), after with
    | some f, _, _ => .use ⟨f, none, false⟩
    | none, some f, some after => .use ⟨f, some (String.ofList after), true⟩
    | _, _, _ =>
      match if c = '-' then longUses cs else shortUses cs with
      | [(_, u)] => .use u
      | [] => if isNegativeNumber cs || cs.contains ' ' then .argument else .unknownFlag
      | uses => .ambiguous (uses.map Prod.fst)
  | _ => .argument

/-- The words of a command line with what they are.  After a separator all are arguments. -/
def classifyAll : List String → List (String × Word)
  | [] => []
  | word :: rest =>
    if word = "--" then (word, .separator) :: rest.map fun w => (w, .argument)
    else (word, classify word) :: classifyAll rest

end FlowDiagram.CommandLine
