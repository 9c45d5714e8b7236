import FlowDiagram.Conversion.Library
import FlowDiagram.Text.Lines

/-! # Project files

A project is read from a JSON or a YAML file, which the ending of its name tells.  A file that
holds just a graph, a mapping with nodes and no envelope, is put into one.
-/

namespace FlowDiagram.Conversion

def fileText (s : String) : String := String.ofList (Text.plainLines s.toList)

/-- The data in an envelope. -/
def enveloped (data : Value) : Value :=
  if (data.field? "json").isNone && (data.field? "nodes").isSome then
    Value.object [("json", data)]
  else data

/-- The data of a project file in a folder. -/
def readProject (lib : Library) (d : Folder) (name : String) : Except Failure Value := do
  let extension := Folder.extension name
  if extension = ".json" then
    let s ← (d.read name).mapError .file
    return enveloped (← (Json.read (fileText s)).mapError .json)
  else if extension = ".yaml" || extension = ".yml" then
    let s ← (d.read name).mapError .file
    return enveloped (← (lib.readYaml (fileText s)).mapError .yaml)
  else .error (.badExtension extension)

end FlowDiagram.Conversion
