import FlowDiagram.Diagram.Reader
import FlowDiagram.Json.Reader
import FlowDiagram.Log.Basic

/-! # Failures of a conversion

Why a conversion fails, with the kind and the text that a log reports.
-/

namespace FlowDiagram

namespace Log.Error

/-- The kind of an error, as reports name it. -/
def kind : Error → String
  | unknownLevel _ => "KeyError"
  | invalidLevel _ => "ValueError"
  | raised e => e.kind
  | wrongType => "TypeError"
  | noFormat => "AttributeError"
  | closed => "ValueError"
  | file (.notFound _) => "FileNotFoundError"
  | file (.isFolder _) => "IsADirectoryError"

/-- The error is of a kind that a run is expected to fail with. -/
def isExpected : Error → Bool
  | invalidLevel _ => true
  | raised e => e.isExpected
  | closed => true
  | file _ => true
  | unknownLevel _ | wrongType | noFormat => false

end Log.Error

namespace Conversion

inductive Failure where
  | noInput
  | badExtension (extension : String)
  | wrongType
  | file (e : FileError)
  | json (fault : Json.Fault)
  | yaml (e : Raised)
  | diagram (e : DiagramError)
  | log (e : Log.Error)

namespace Failure

def message : Failure → String
  | noInput => "compile.input.file is not set"
  | badExtension extension => "Invalid extension: " ++ extension
  | wrongType => "wrong type"
  | file e => e.message
  | json fault => fault.message
  | yaml e => e.message
  | diagram e => e.message
  | log e => e.message

/-- The kind of a failure, as reports name it. -/
def kind : Failure → String
  | noInput => "ValueError"
  | badExtension _ => "ValueError"
  | wrongType => "TypeError"
  | file e => (Log.Error.file e).kind
  | json _ => "json.decoder.JSONDecodeError"
  | yaml e => e.kind
  | diagram _ => "desflow.graph.GraphError"
  | log e => e.kind

/-- What a log reports of a failure in a run. -/
def report (f : Failure) : Log.Report := ⟨f.kind, f.message, true⟩

end Failure

end Conversion

end FlowDiagram
