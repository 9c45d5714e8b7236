import FlowDiagram.Conversion.Project
import FlowDiagram.Conversion.Result
import FlowDiagram.Drawing.Dot
import FlowDiagram.Drawing.Reader
import FlowDiagram.Model.Compile

/-! # Conversions

A conversion reads the project that the settings name, compiles it, and writes the model, the
activities by handler and a drawing, as far as the settings ask for them.  A log tells what is
skipped, and also reports the failure of a conversion that it was opened for.
-/

namespace FlowDiagram

/-- The level at which a stage tells what it skips. -/
def Stage.level : Stage → Log.Level
  | graph => .warning
  | activities => .info
  | compile => .info

def Stage.all : List Stage := [graph, activities, compile]

namespace Conversion

variable (lib : Library)

/-- Do something with a tracer, which reports a failure and is closed at the end. -/
def withTracer {α : Type} (run : Tracer → Task Failure α) : Task Failure α := do
  let tracer ← Task.mapError .log (Tracer.start lib.dialect)
  tryCatch (run tracer) fun failure => do
    Task.mapError .log (tracer.report lib.dialect failure.report)
    throw failure

/-- The traces of the stages. -/
def stageTraces (tracer : Tracer) : Task Failure (List (Stage × Log.Trace)) :=
  Task.ofExcept <| Stage.all.mapM fun s =>
    ((tracer.trace lib.dialect s.name s.level.name).map fun trace => (s, trace)).mapError .log

/-- The trace of a stage. -/
def traceOf (traces : List (Stage × Log.Trace)) (s : Stage) : Log.Trace :=
  ((traces.find? fun t => t.1 = s).map Prod.snd).getD .silent

/-- The model of a project, with all there is to tell told to a tracer. -/
def compileTraced (project : Value) (tracer : Tracer) : Task Failure Model := do
  let traces ← stageTraces lib tracer
  let notices ← Task.ofExcept ((projectNotices project).mapError .diagram)
  for n in notices do
    Task.mapError .log (tracer.tell (traceOf traces n.stage) [.text n.message])
  Task.ofExcept ((compileProject project).mapError .diagram)

/-- The scenario of a project, compiled under the tracer that the settings ask for. -/
def compileLogged (project name description : Value) : Task Failure Scenario := do
  return ⟨name, description, ← withTracer lib (compileTraced lib project)⟩

/-- Write the drawing that the settings ask for. -/
def draw (m : Model) : Task Failure Unit := do
  let enabled ← Task.setting .drawingEnabled
  let scheme ← Task.setting .colorScheme
  let file ← Task.setting .drawingFile
  if enabled.truthy && file.truthy then
    match file with
    | .text name =>
      let s := (m.drawing .all).text scheme.label
      Task.inFolder fun d => (d.write name s).mapError .file
    | _ => Task.fail .wrongType

/-- Read the project of a name. -/
def load (name : Value) : Task Failure Value := do
  match name with
  | .text name => Task.ofExcept (readProject lib (← get).folder name)
  | _ => Task.fail .wrongType

/-- The conversion that the settings describe. -/
def run : Task Failure Scenario := do
  let input ← Task.setting .inputFile
  let output ← Task.setting .outputFile
  let handlers ← Task.setting .handlersFile
  let name ← Task.setting .scenario
  let description ← Task.setting .description
  if !input.truthy then Task.fail .noInput
  else
    withTracer lib fun tracer => do
      let project ← load lib input
      let scenario : Scenario := ⟨name, description, ← compileTraced lib project tracer⟩
      Task.inFolder (writeResult lib output scenario.toValue)
      Task.inFolder (writeResult lib handlers (handlerGroupsValue scenario.model.handlerGroups))
      draw scenario.model
      Task.mapError .log tracer.flush
      return scenario

end Conversion

end FlowDiagram
