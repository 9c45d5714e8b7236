import FlowDiagram.OrderedMap
import FlowDiagram.Value.Basic

/-! # Settings

A conversion is described by a table of settings under dotted keys.  The table may hold any keys.
A run that needs a setting notes its default in the table if it is not there, so that the table
shows afterwards what was used.
-/

namespace FlowDiagram

/-- The settings that a conversion looks at. -/
inductive Setting where
  | inputFile | outputFile | handlersFile | scenario | description
  | drawingEnabled | drawingFile | colorScheme
  | logEnabled | logFile | logLevel | logFormat | logIncludes | logExcludes
deriving DecidableEq, Repr

namespace Setting

def all : List Setting :=
  [inputFile, outputFile, handlersFile, scenario, description, drawingEnabled, drawingFile,
    colorScheme, logEnabled, logFile, logLevel, logFormat, logIncludes, logExcludes]

def key : Setting → String
  | inputFile => "compile.input.file"
  | outputFile => "compile.output.file"
  | handlersFile => "compile.handlers.file"
  | scenario => "compile.scenario"
  | description => "compile.description"
  | drawingEnabled => "compile.dot.enable"
  | drawingFile => "compile.dot.file"
  | colorScheme => "compile.dot.colorscheme"
  | logEnabled => "compile.log.enable"
  | logFile => "compile.log.file"
  | logLevel => "compile.log.level"
  | logFormat => "compile.log.format"
  | logIncludes => "compile.log.include_pat"
  | logExcludes => "compile.log.exclude_pat"

def default : Setting → Value
  | inputFile => .null
  | outputFile => .text "model.json"
  | handlersFile => .null
  | scenario => .text ""
  | description => .text ""
  | drawingEnabled => .bool false
  | drawingFile => .text "model.dot"
  | colorScheme => .text ""
  | logEnabled => .bool false
  | logFile => .text ""
  | logLevel => .text "WARNING"
  | logFormat => .text "\x7blevel:7\x7d \x7bscope\x7d:"
  | logIncludes => .list [.text ".*"]
  | logExcludes => .list []

theorem key_inj {s s' : Setting} (h : s.key = s'.key) : s = s' := by
  cases s <;> cases s' <;> simp_all [key]

end Setting

/-- Values by key, in order. -/
abbrev Settings := OrderedMap String Value

namespace Settings

/-- All settings at their defaults. -/
def default : Settings := .ofList (Setting.all.map fun s => (s.key, s.default))

/-- The value of a setting, its default if the table has none. -/
def value (t : Settings) (s : Setting) : Value := (t.get? s.key).getD s.default

/-- The table with the default of a setting unless it has a value. -/
def note (t : Settings) (s : Setting) : Settings := t.putNew s.key s.default

/-- The table with some settings noted, in order. -/
def noteAll (t : Settings) (ss : List Setting) : Settings := ss.foldl note t

def set (t : Settings) (s : Setting) (v : Value) : Settings := t.put s.key v

theorem value_set (t : Settings) (s s' : Setting) (v : Value) :
    (t.set s v).value s' = if s = s' then v else t.value s' := by
  rw [value, set, OrderedMap.get?_put]
  by_cases h : s = s'
  · rw [h, if_pos rfl, if_pos rfl]
    rfl
  · rw [if_neg h, if_neg fun hkey => h (Setting.key_inj hkey)]
    rfl

/-- Noting a default changes the value of no setting. -/
theorem value_note (t : Settings) (s s' : Setting) : (t.note s).value s' = t.value s' := by
  rw [value, note, OrderedMap.get?_putNew]
  split
  · next h => simp [value, Setting.key_inj h]
  · rfl

theorem value_noteAll (t : Settings) (ss : List Setting) (s : Setting) :
    (t.noteAll ss).value s = t.value s := by
  induction ss generalizing t with
  | nil => rfl
  | cons s' ss ih => rw [noteAll, List.foldl_cons, ← noteAll, ih, value_note]

end Settings

end FlowDiagram
