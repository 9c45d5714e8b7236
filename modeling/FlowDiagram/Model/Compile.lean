import FlowDiagram.Diagram.Reader
import FlowDiagram.Model.Basic

/-! # Compiling a diagram

Compiling is a function of the diagram alone.  Beside the model it gives what there is to tell: the
entries that were skipped, the conditions that were ignored, and a summary.
-/

namespace FlowDiagram

/-- The stage of compilation that a message is about. -/
inductive Stage where
  | graph | activities | compile
deriving DecidableEq, Repr

def Stage.name : Stage → String
  | graph => "graph"
  | activities => "activities"
  | compile => "compile"

structure Notice where
  stage : Stage
  message : String
deriving DecidableEq, Repr

namespace Diagram

/-- The model of a diagram. -/
def compile (d : Diagram) : Model :=
  let owners := d.owners
  { relationships := d.relationships owners
    resources := d.resources
    activities := d.lowerAll owners
    connections := d.connections }

/-- The counts of activities, of those that belong to an entity, and of connections. -/
def summary (d : Diagram) : String :=
  let model := d.compile
  Text.decimal model.activities.length ++ " activities, " ++ Text.decimal d.owners.size ++
    " handled, " ++ Text.decimal model.connections.length ++ " connections"

/-- What there is to tell about compiling a diagram that was read. -/
def notices (d : Diagram) : List Notice :=
  d.allIgnoredConditions.map (fun c => ⟨.activities, c.message⟩) ++ [⟨.compile, d.summary⟩]

end Diagram

/-- The model of a project's data. -/
def compileProject (project : Value) : Except DiagramError Model :=
  (Diagram.ofProject project).map fun (d, _) => d.compile

/-- All there is to tell about compiling a project's data, in order. -/
def projectNotices (project : Value) : Except DiagramError (List Notice) :=
  (Diagram.ofProject project).map fun (d, skips) =>
    skips.map (fun s => ⟨.graph, s.message⟩) ++ d.notices

end FlowDiagram
