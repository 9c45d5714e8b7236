import FlowDiagram.CommandLine.Options
import FlowDiagram.Conversion.Basic
import FlowDiagram.Settings.Override

/-! # Running the command line

The options become settings, the overrides are applied in order, and the conversion is run.  At the
end one line tells what the model holds, or what went wrong.
-/

namespace FlowDiagram.CommandLine

/-- Why a run fails: an override, or the conversion. -/
inductive Failure where
  | override (e : OverrideError)
  | conversion (f : Conversion.Failure)

namespace Failure

def message : Failure → String
  | override e => e.message
  | conversion f => f.message

/-- The failure is told in a line; others are faults of the settings that are not expected. -/
def isTold : Failure → Bool
  | override (.settings _) => true
  | override (.fault f) => f.isExpected
  | conversion .wrongType => false
  | conversion (.yaml e) => e.isExpected
  | conversion (.log e) => e.isExpected
  | conversion _ => true

end Failure

/-- How a run ends. -/
inductive Ending where
  | done (scenario : Scenario)
  | failed (f : Failure)

/-- The settings that the options ask for, before overrides. -/
def Options.settings (o : Options) : Settings :=
  let text := fun s : Option String => s.elim Value.null Value.text
  let t := Settings.default
    |>.set .inputFile (text o.input)
    |>.set .outputFile (.text o.output)
    |>.set .scenario (.text o.scenario)
    |>.set .description (.text o.description)
    |>.set .handlersFile (text o.handlers)
  let t := match o.drawing with
    | none => t
    | some "" => t
    | some name => (t.set .drawingEnabled (.bool true)).set .drawingFile (.text name)
  t.set .logEnabled (.bool o.log)

/-- Run the conversion that the options ask for. -/
def run (ev : Evaluator) (lib : Conversion.Library) (o : Options) (d : Folder) : Ending × Workspace :=
  let (settings, fault) := Settings.overrideAll ev .builtins o.settings o.overrides
  let start : Workspace := ⟨settings, d, ""⟩
  match fault with
  | some e => (.failed (.override e), start)
  | none =>
    match (Conversion.run lib).perform start with
    | (.ok scenario, after) => (.done scenario, after)
    | (.error f, after) => (.failed (.conversion f), after)

/-- The line that tells a mistake or a failure. -/
def errorLine (message : String) : String := "desflow: error: " ++ message ++ "\n"

/-- The line that tells what a model holds. -/
def summaryLine (settings : Settings) (m : Model) : String :=
  (settings.value .inputFile).display ++ ": " ++ Text.decimal m.activities.length ++
    " activities, " ++ Text.decimal m.resources.length ++ " resources, " ++
    Text.decimal m.connections.length ++ " connections, " ++
    Text.decimal m.relationships.length ++ " entity relationships\n"

end FlowDiagram.CommandLine
