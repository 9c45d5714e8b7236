import FlowDiagram.Conversion.Library
import FlowDiagram.Expression.Reader
import FlowDiagram.Pattern.Reader
import FlowDiagram.Settings.Override
import FlowDiagram.Template.Basic
import FlowDiagram.Yaml.Reader
import FlowDiagram.Yaml.Writer

/-! # What the program is run with

An evaluator, a dialect and a library of its own come with the program, for where there are no
others.  They know the plainer expressions, patterns, formats and YAML documents, and take all others
for bad ones.  Nothing that is said of settings, logs and conversions rests on them.
-/

namespace FlowDiagram

/-- An evaluator of expressions that are put together from constants, names, operators and calls, with
room for lists of ten million items. -/
def Evaluator.basic : Evaluator where
  value? := Expression.evaluate? 10000000
  construct := fun _ _ => .error .wrongType
  isOf_construct := nofun
  type?_construct := nofun
  room := 10000000

/-- The values of the two fields that the format of a log may have. -/
def Log.formatField? (level scope name : String) : Option String :=
  if name = "level" then some level else if name = "scope" then some scope else none

/-- A dialect of patterns without classes and counts, and of formats whose fields have no
attributes. -/
def Log.Dialect.basic : Log.Dialect where
  pattern
    | .text s =>
      match Pattern.read? s with
      | some p => .ok p.matchesStart
      | none => .error ⟨"re.error", "bad pattern", false⟩
    | _ => .error ⟨"TypeError", "no pattern", false⟩
  fill format level scope :=
    (Template.fill (Log.formatField? level scope) format).mapError Template.Fault.raised

/-- A library for YAML without anchors, tags and blocks of text. -/
def Conversion.Library.basic : Conversion.Library where
  dialect := .basic
  readYaml s := (Yaml.read s).mapError fun fault => ⟨"yaml.YAMLError", fault.message, true⟩
  readYaml_empty := rfl
  writeYaml := Yaml.write

end FlowDiagram
