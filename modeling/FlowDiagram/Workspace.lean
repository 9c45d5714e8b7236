import FlowDiagram.Folder
import FlowDiagram.Settings.Basic

/-! # Workspaces

What a run works on: its settings, a folder, and the text on the error stream.  A task keeps what
it has done to the workspace also if it fails.
-/

namespace FlowDiagram

structure Workspace where
  settings : Settings
  folder : Folder
  errors : String

/-- Work that may fail with an error of a type. -/
abbrev Task (ε α : Type) := ExceptT ε (StateM Workspace) α

namespace Task

variable {ε ε' α : Type}

/-- The outcome of a task and the workspace after it. -/
def perform (t : Task ε α) (w : Workspace) : Except ε α × Workspace := StateT.run (ExceptT.run t) w

def ofExcept (e : Except ε α) : Task ε α := ExceptT.mk (pure e)

def fail (e : ε) : Task ε α := ofExcept (.error e)

/-- The value of a setting, noted in the table. -/
def setting (s : Setting) : Task ε Value := do
  modify fun w => { w with settings := w.settings.note s }
  return (← get).settings.value s

/-- Change the folder. -/
def inFolder (change : Folder → Except ε Folder) : Task ε Unit := do
  let d ← ofExcept (change (← get).folder)
  modify fun w => { w with folder := d }

/-- Write to the error stream. -/
def tell (s : String) : Task ε Unit := modify fun w => { w with errors := w.errors ++ s }

/-- The task with its errors seen as others. -/
def mapError (f : ε → ε') (t : Task ε α) : Task ε' α :=
  ExceptT.mk do return (← ExceptT.run t).mapError f

end Task

end FlowDiagram
