import FlowDiagram.Log.Filter
import FlowDiagram.Value.Builtin
import FlowDiagram.Workspace

/-! # Logs

A log tells what a compilation skips.  It writes to a file, which it starts anew whenever it is
opened, or to the error stream.  Whoever wants to tell something asks for a trace under a scope and
a level; a trace that the log does not admit is silent.  A log that is not enabled does nothing.
-/

namespace FlowDiagram

namespace Log

inductive Error where
  | unknownLevel (name : String)
  | invalidLevel (v : Value)
  | raised (e : Raised)
  | wrongType
  | noFormat
  | closed
  | file (e : FileError)

def Error.message : Error → String
  | unknownLevel name => Text.quoted name
  | invalidLevel v => "Invalid compile.log.level: " ++ v.display
  | raised e => e.message
  | wrongType => "wrong type"
  | noFormat => "no format"
  | closed => "I/O operation on closed file."
  | file e => e.message

/-- Where a log writes.  A file that has been removed while it was open is not kept. -/
inductive Sink where
  | errors
  | file (name : String) (isOpen : Bool) (kept : Bool)
deriving DecidableEq, Repr

/-- The way to tell something: the heading of its lines, or silence. -/
inductive Trace where
  | silent
  | headed (heading : String)
deriving DecidableEq, Repr

def Trace.isSilent : Trace → Bool
  | silent => true
  | headed _ => false

/-- An error that a log reports: the name of its kind and its text. -/
structure Report where
  kind : String
  text : String
  /-- The report says where in a run the error arose. -/
  located : Bool
deriving DecidableEq, Repr

/-- What a report says if there is no error. -/
def Report.nothing : Report := ⟨"NoneType: None", "", false⟩

def Report.summary (r : Report) : String :=
  (if r.text = "" then r.kind else r.kind ++ ": " ++ r.text) ++ "\n"

def Report.lines (r : Report) : List String :=
  if r.located then ["Traceback (most recent call last):\n", r.summary] else [r.summary]

end Log

/-- A log that is enabled. -/
structure Log where
  filter : Log.Filter
  format : Value
  sink : Log.Sink

namespace Log

/-- The patterns that a setting lists. -/
def readPatterns (dialect : Dialect) (v : Value) : Except Error (List Pattern) := do
  let items ← v.items.mapError fun _ => Error.wrongType
  items.mapM fun v => (dialect.pattern v).mapError .raised

/-- Open the sink that a setting names. -/
def openSink (v : Value) : Task Error Sink :=
  if v.truthy then
    match v with
    | .text name => do
      Task.inFolder fun d => (d.write name "").mapError Error.file
      return .file name true true
    | _ => Task.fail .wrongType
  else return .errors

/-- Open a log with some patterns, as the settings ask. -/
def openWith (includes excludes : List Pattern) : Task Error Log := do
  let file ← Task.setting .logFile
  let levelName ← Task.setting .logLevel
  match levelName.text?.bind Level.ofName? with
  | none => Task.fail (if levelName.hashable then .invalidLevel levelName else .wrongType)
  | some level =>
    let format ← Task.setting .logFormat
    let sink ← openSink file
    return ⟨⟨level, includes, excludes⟩, format, sink⟩

/-- The heading of lines under a scope and a level. -/
def heading (dialect : Dialect) (l : Log) (scope levelName : String) : Except Error String :=
  match l.format with
  | .text format => (dialect.fill format levelName scope).mapError .raised
  | _ => .error .noFormat

/-- Whether the log admits messages under a scope, and at a level if one is given. -/
def admits (l : Log) (scope : String) (levelName : Option String) : Except Error Bool :=
  match levelName with
  | none => .ok (l.filter.admitsScope scope)
  | some name =>
    match Level.ofName? name with
    | some level => .ok (l.filter.admits scope level)
    | none => .error (.unknownLevel name)

/-- The trace for a scope and a level. -/
def trace (dialect : Dialect) (l : Log) (scope levelName : String) : Except Error Trace := do
  if ← l.admits scope (some levelName) then return .headed (← l.heading dialect scope levelName)
  else return .silent

/-- Write to the log. -/
def write (l : Log) (s : String) : Task Error Unit :=
  match l.sink with
  | .errors => Task.tell s
  | .file _ false _ => Task.fail .closed
  | .file name true true => Task.inFolder fun d => .ok (d.append name s)
  | .file _ true false => return ()

/-- Tell some values under a trace, on a line of their own. -/
def tell (l : Log) (t : Trace) (values : List Value) : Task Error Unit :=
  match t with
  | .silent => return ()
  | .headed heading => l.write (" ".intercalate (heading :: values.map Value.display) ++ "\n")

/-- Report an error: its summary, then all its lines. -/
def report (dialect : Dialect) (l : Log) (r : Report) : Task Error Unit := do
  let heading ← Task.ofExcept (l.heading dialect "Exception" Level.error.name)
  l.write (" ".intercalate ([heading, r.summary, "\n"] ++ r.lines) ++ "\n")

/-- Make sure that what was told is written. -/
def flush (l : Log) : Task Error Unit :=
  match l.sink with
  | .file _ false _ => Task.fail .closed
  | _ => return ()

def close (l : Log) : Log :=
  match l.sink with
  | .file name _ kept => { l with sink := .file name false kept }
  | .errors => l

/-- Remove the file of the log. -/
def remove (l : Log) : Task Error Log :=
  match l.sink with
  | .errors => return l
  | .file name isOpen _ => do
    Task.inFolder fun d => .ok (d.remove name)
    return { l with sink := .file name isOpen false }

end Log

/-- A log, or none if the setting that enables it counts as false. -/
structure Tracer where
  enabled : Value
  log : Option Log

namespace Tracer

open Log (Dialect Error Trace Report)

/-- The tracer that the settings ask for. -/
def start (dialect : Dialect) : Task Error Tracer := do
  let enabled ← Task.setting .logEnabled
  if enabled.truthy then
    let includes ← Task.setting .logIncludes
    let excludes ← Task.setting .logExcludes
    let includes ← Task.ofExcept (Log.readPatterns dialect includes)
    let excludes ← Task.ofExcept (Log.readPatterns dialect excludes)
    return ⟨enabled, some (← Log.openWith includes excludes)⟩
  else return ⟨enabled, none⟩

/-- Open the log anew, as the settings ask.  This starts its file anew even if the log is not
enabled. -/
def reopen (t : Tracer) : Task Error Tracer := do
  match t.log with
  | some l => return { t with log := some (← Log.openWith l.filter.includes l.filter.excludes) }
  | none =>
    let _ ← Log.openWith [] []
    return t

/-- Whether a scope is enabled; if the tracer is not, the value that says so. -/
def admits (t : Tracer) (scope : String) (levelName : Option String) : Except Error Value :=
  match t.log with
  | some l => (l.admits scope levelName).map .bool
  | none => .ok t.enabled

/-- The level of a trace that asks for none. -/
def usualLevel : String := Log.Level.debug.name

def trace (dialect : Dialect) (t : Tracer) (scope levelName : String) : Except Error Trace :=
  match t.log with
  | some l => l.trace dialect scope levelName
  | none => .ok .silent

/-- The traces for some scopes with their levels; without a tracer all are silent. -/
def traces (dialect : Dialect) (t : Option Tracer) (scopes : OrderedMap String String) :
    Except Error (List (String × Trace)) :=
  scopes.entries.mapM fun (scope, levelName) =>
    match t with
    | some t => (t.trace dialect scope levelName).map fun trace => (scope, trace)
    | none => .ok (scope, .silent)

def tell (t : Tracer) (trace : Trace) (values : List Value) : Task Error Unit :=
  t.log.elim (return ()) fun l => l.tell trace values

def report (dialect : Dialect) (t : Tracer) (r : Report) : Task Error Unit :=
  t.log.elim (return ()) fun l => l.report dialect r

def flush (t : Tracer) : Task Error Unit := t.log.elim (return ()) Log.flush

def close (t : Tracer) : Tracer := { t with log := t.log.map Log.close }

def remove (t : Tracer) : Task Error Tracer :=
  match t.log with
  | some l => do return { t with log := some (← l.remove) }
  | none => return t

end Tracer

end FlowDiagram
