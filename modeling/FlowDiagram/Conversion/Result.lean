import FlowDiagram.Conversion.Library
import FlowDiagram.Json.Writer
import FlowDiagram.Value.Spread

/-! # Result files

A result is written as JSON, as YAML or as a literal, which the ending of the file's name tells.  A
name that is null asks for no file.
-/

namespace FlowDiagram.Conversion

/-- A value in the format of an ending. -/
def formatted (lib : Library) (extension : String) (v : Value) : Except Failure String :=
  if extension = ".json" then .ok (Json.write v)
  else if extension = ".yaml" || extension = ".yml" then .ok (lib.writeYaml v)
  else if extension = ".py" then .ok v.spread
  else .error (.badExtension extension)

/-- The folder after a result has been written to the file of a name. -/
def writeResult (lib : Library) (name v : Value) (d : Folder) : Except Failure Folder :=
  match name with
  | .null => .ok d
  | .text name => do
    let s ← formatted lib (Folder.extension name) v
    (d.write name s).mapError .file
  | _ => .error .wrongType

end FlowDiagram.Conversion
