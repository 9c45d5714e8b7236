import FlowDiagram.CommandLine.Basics
import FlowDiagram.CommandLine.Run

/-! # The program

The files that a run may need are read before it and the files that it changed are written after
it, so that the run itself is a function of a folder.
-/

namespace FlowDiagram.CommandLine

def usage : String :=
  "usage: desflow [-h] [--output FILE] [--scenario TEXT] [--description TEXT] [--handlers FILE]\n" ++
    "               [--dot FILE] [--log] [--set KEY VALUE] input\n"

/-- The names of files that the settings of a run hold. -/
def Options.fileNames (o : Options) : List String :=
  let settings := (Settings.overrideAll .basic .builtins o.settings o.overrides).1
  [Setting.inputFile, .outputFile, .handlersFile, .drawingFile, .logFile].filterMap fun s =>
    (settings.value s).text?

def isFolder (name : String) : IO Bool := do
  try (← IO.FS.realPath name).isDir catch _ => return false

/-- The file of a name, if it can be read. -/
def readFile? (name : String) : IO (Option (String × String)) := do
  try return some (String.ofList (Folder.plainName name.toList), ← IO.FS.readFile name)
  catch _ => return none

/-- What there is of some files, with the folders that they are in. -/
def readFolder (names : List String) : IO Folder := do
  let plain := names.map fun n => String.ofList (Folder.plainName n.toList)
  let folders ← (plain ++ plain.map fun n => Folder.parent n.toList).filterM isFolder
  return ⟨.ofList (← names.filterMapM readFile?), "" :: folders⟩

/-- Run a command line, and give the code with which the program ends. -/
def runProgram (args : List String) : IO UInt32 := do
  match readOptions args with
  | .error .help =>
    IO.print usage
    return 0
  | .error (.mistake m) =>
    IO.eprint (usage ++ errorLine m.message)
    return 2
  | .ok o =>
    let before ← readFolder o.fileNames
    let (ending, after) := run .basic .basic o before
    IO.eprint after.errors
    for (name, content) in after.folder.changedSince before do
      IO.FS.writeFile name content
    match ending with
    | .done scenario =>
      IO.print (summaryLine after.settings scenario.model)
      return 0
    | .failed f =>
      IO.eprint (errorLine f.message)
      return 1

end FlowDiagram.CommandLine

def main (args : List String) : IO UInt32 := FlowDiagram.CommandLine.runProgram args
