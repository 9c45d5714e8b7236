import FlowDiagram.Template.Spec
import FlowDiagram.Text.Quoted
import FlowDiagram.Value.Fault

/-! # Templates

A template is a text with fields between braces.  A field names a text, may pick characters out of
it by index, may ask for its quoted form, and may lay it out; the layout may hold fields itself.
Doubled braces stand for single ones.  Filling goes from left to right and stops at the first fault.
The attributes that a text may have are not known here.
-/

namespace FlowDiagram.Template

/-- Why a template cannot be filled. -/
inductive Fault where
  | loneOpening
  | loneClosing
  | openingInName
  | unclosedField
  | conversionMissing
  | afterConversion
  | unclosedLayout
  | unclosedIndex
  | emptyStep
  | afterIndex
  | tooDeep
  | tooManyDigits
  | unknownConversion (c : Char)
  | unknownField (name : String)
  | noPosition (index : Nat)
  | indexOutOfRange
  | indexNotNumber
  | noAttribute
  | layout (fault : LayoutFault)
deriving DecidableEq, Repr

def Fault.message : Fault → String
  | loneOpening => "Single '\x7b' encountered in format string"
  | loneClosing => "Single '\x7d' encountered in format string"
  | openingInName => "unexpected '\x7b' in field name"
  | unclosedField => "expected '\x7d' before end of string"
  | conversionMissing => "end of string while looking for conversion specifier"
  | afterConversion => "expected ':' after conversion specifier"
  | unclosedLayout => "unmatched '\x7b' in format spec"
  | unclosedIndex => "Missing ']' in format string"
  | emptyStep => "Empty attribute in format string"
  | afterIndex => "Only '.' or '[' may follow ']' in format field specifier"
  | tooDeep => "Max string recursion exceeded"
  | tooManyDigits => "Too many decimal digits in format string"
  | unknownConversion c => "Unknown conversion specifier " ++ shownChar c 127
  | unknownField name => Text.quoted name
  | noPosition index =>
    "Replacement index " ++ Text.decimal index ++ " out of range for positional args tuple"
  | indexOutOfRange => "string index out of range"
  | indexNotNumber => "string indices must be integers"
  | noAttribute => "no such attribute"
  | layout fault => fault.message

def Fault.kind : Fault → String
  | unknownField _ => "KeyError"
  | noPosition _ => "IndexError"
  | indexOutOfRange => "IndexError"
  | indexNotNumber => "TypeError"
  | noAttribute => "AttributeError"
  | _ => "ValueError"

def Fault.raised (f : Fault) : Raised := ⟨f.kind, f.message, f.kind = "ValueError"⟩

structure Field where
  name : List Char
  conversion : Option Char
  layout : List Char
deriving DecidableEq, Repr

/-- The name at the front of a field, the mark that ends it, and the rest.  Between brackets no
mark counts. -/
def readName : (inBrackets : Bool) → List Char → Except Fault (List Char × Char × List Char)
  | _, [] => .error .unclosedField
  | true, c :: s => do
    let (name, mark, rest) ← readName (c ≠ ']') s
    return (c :: name, mark, rest)
  | false, c :: s =>
    if c = '\x7b' then .error .openingInName
    else if c = '\x7d' || c = ':' || c = '!' then .ok ([], c, s)
    else do
      let (name, mark, rest) ← readName (c = '[') s
      return (c :: name, mark, rest)

/-- The layout up to the brace that closes its field, and the rest; `open` counts the braces that
are open inside it. -/
def readLayout : (depth : Nat) → List Char → Except Fault (List Char × List Char)
  | _, [] => .error .unclosedLayout
  | 0, '\x7d' :: s => .ok ([], s)
  | depth + 1, '\x7d' :: s => do
    let (layout, rest) ← readLayout depth s
    return ('\x7d' :: layout, rest)
  | depth, c :: s => do
    let (layout, rest) ← readLayout (if c = '\x7b' then depth + 1 else depth) s
    return (c :: layout, rest)

/-- The field whose opening brace has been read, and the rest. -/
def readField (s : List Char) : Except Fault (Field × List Char) := do
  let (name, mark, s) ← readName false s
  if mark = '\x7d' then return (⟨name, none, []⟩, s)
  else if mark = ':' then
    let (layout, rest) ← readLayout 0 s
    return (⟨name, none, layout⟩, rest)
  else
    match s with
    | [] => .error .conversionMissing
    | conversion :: '\x7d' :: rest => return (⟨name, some conversion, []⟩, rest)
    | conversion :: ':' :: s =>
      let (layout, rest) ← readLayout 0 s
      return (⟨name, some conversion, layout⟩, rest)
    | _ :: [] => .error .unclosedLayout
    | _ => .error .afterConversion

/-- A number in brackets, or at the front of a name; none if the text is no number. -/
def index? (s : List Char) : Except Fault (Option Nat) :=
  if s.isEmpty then .ok none
  else
    match readCount 0 0 s with
    | none => .error .tooManyDigits
    | some (n, _, []) => .ok (some n)
    | some _ => .ok none

/-- Follow the steps after the first part of a name. -/
def follow : (fuel : Nat) → (value : List Char) → (steps : List Char) → Except Fault (List Char)
  | _, value, [] => .ok value
  | 0, value, _ => .ok value
  | fuel + 1, value, '[' :: s =>
    match s.span (· ≠ ']') with
    | (_, []) => .error .unclosedIndex
    | (inner, _ :: rest) => do
      let index ← index? inner
      if inner.isEmpty then .error .emptyStep
      else
        match index with
        | none => .error .indexNotNumber
        | some i =>
          match value[i]? with
          | some c => follow fuel [c] rest
          | none => .error .indexOutOfRange
  | _ + 1, _, '.' :: s =>
    if (s.takeWhile fun c => c ≠ '[' && c ≠ '.').isEmpty then .error .emptyStep
    else .error .noAttribute
  | _ + 1, _, _ => .error .afterIndex

/-- The text of a field's value before conversion. -/
def resolve (lookup : String → Option String) (name : List Char) : Except Fault (List Char) := do
  let (first, steps) := name.span fun c => c ≠ '.' && c ≠ '['
  if first.isEmpty then .error (.noPosition 0)
  else
    match ← index? first with
    | some i => .error (.noPosition i)
    | none =>
      match lookup (String.ofList first) with
      | some value => follow name.length value.toList steps
      | none => .error (.unknownField (String.ofList first))

/-- A text in quotes, with all but ASCII characters written by their code points. -/
def asciiQuoted (s : List Char) : List Char :=
  (Text.quotedChars s).flatMap fun c => if c.toNat < 128 then [c] else Text.codePointEscape c

def convert (conversion : Option Char) (s : List Char) : Except Fault (List Char) :=
  match conversion with
  | none => .ok s
  | some 's' => .ok s
  | some 'r' => .ok (Text.quotedChars s)
  | some 'a' => .ok (asciiQuoted s)
  | some c => .error (.unknownConversion c)

/-- A text laid out as a field asks; no layout leaves it as it is. -/
def layOut (layout s : List Char) : Except Fault (List Char) :=
  if layout.isEmpty then .ok s
  else (Layout.read layout).mapError .layout |>.map (·.apply s)

/-- Fill a template whose layouts are filled by `fillLayout`.  Each step takes a character. -/
def fillWith (lookup : String → Option String) (fillLayout : List Char → Except Fault (List Char)) :
    (fuel : Nat) → List Char → Except Fault (List Char)
  | _, [] => .ok []
  | 0, _ => .ok []
  | fuel + 1, c :: s =>
    if c = '\x7b' || c = '\x7d' then
      match s with
      | [] => .error (if c = '\x7b' then .loneOpening else .loneClosing)
      | d :: rest =>
        if d = c then (fillWith lookup fillLayout fuel rest).map (c :: ·)
        else if c = '\x7d' then .error .loneClosing
        else do
          let (field, rest) ← readField s
          let value ← convert field.conversion (← resolve lookup field.name)
          let layout ←
            if field.layout.contains '\x7b' then fillLayout field.layout else .ok field.layout
          let shown ← layOut layout value
          let after ← fillWith lookup fillLayout fuel rest
          return shown ++ after
    else (fillWith lookup fillLayout fuel s).map (c :: ·)

/-- Fill a template in which layouts may be nested to a depth. -/
def fillNested (lookup : String → Option String) : (depth : Nat) → List Char →
    Except Fault (List Char)
  | 0, _ => .error .tooDeep
  | depth + 1, s => fillWith lookup (fillNested lookup depth) s.length s

/-- The text of a template with its fields filled.  A layout may hold fields, but those have no
fields in their layouts. -/
def fill (lookup : String → Option String) (template : String) : Except Fault String :=
  (fillNested lookup 2 template.toList).map String.ofList

end FlowDiagram.Template
