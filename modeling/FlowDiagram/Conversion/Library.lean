import FlowDiagram.Conversion.Failure

/-! # What a conversion leaves to others

Reading and writing YAML is left to a library, as are the patterns and the format of the log.
-/

namespace FlowDiagram.Conversion

/-- What a conversion does not do itself. -/
structure Library where
  dialect : Log.Dialect
  /-- The data that a text holds, unless it is none. -/
  readYaml : String → Except Raised Value
  /-- An empty text holds null. -/
  readYaml_empty : readYaml "" = .ok .null
  writeYaml : Value → String

end FlowDiagram.Conversion
