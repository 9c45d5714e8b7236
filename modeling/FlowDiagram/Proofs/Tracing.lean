import FlowDiagram.CommandLine.Basics
import FlowDiagram.Conversion.Basic
import FlowDiagram.Proofs.LogText
import FlowDiagram.Proofs.Lookups
import FlowDiagram.Proofs.Telling
import Mathlib.Tactic.Choose

/-! # Tracing

A tracer that was started can write, and a format that fills for every scope and level is all that it
takes for it to tell and to report whatever there is.  So what is compiled under a tracer has the
outcome that it has without one: telling does not get in the way of a model, and reporting passes an
error on.
-/

namespace FlowDiagram

namespace Log

variable {dialect : Dialect}

/-- The format that a log has by default fills. -/
theorem formatFills_default {l : Log} (h : l.format = Setting.logFormat.default) :
    l.FormatFills .basic := by
  intro scope level
  rw [heading, h]
  cases level <;> exact ⟨_, rfl⟩

theorem Level.ofName?_name (level : Level) : ofName? level.name = some level := by
  cases level <;> rfl

section Open

variable {l : Log}

theorem write_gives (hopen : l.sink.isOpen = true) (s : String) : (l.write s).Gives (.ok ()) := by
  intro w
  unfold write
  cases hsink : l.sink with
  | errors => rfl
  | file name isOpen kept =>
    have hisOpen : isOpen = true := by rwa [hsink] at hopen
    subst hisOpen
    cases kept <;> rfl

theorem tell_gives (hopen : l.sink.isOpen = true) (t : Trace) (values : List Value) :
    (l.tell t values).Gives (.ok ()) := by
  cases t with
  | silent => exact fun _ => rfl
  | headed heading => exact write_gives hopen _

theorem report_gives (hopen : l.sink.isOpen = true) (hfills : l.FormatFills dialect) (r : Report) :
    (l.report dialect r).Gives (.ok ()) := by
  obtain ⟨heading, hheading⟩ := hfills "Exception" .error
  rw [report, hheading]
  exact (Task.Gives.ofExcept _).bind (write_gives hopen _)

end Open

theorem admits_level (l : Log) (scope : String) (level : Level) :
    l.admits scope (some level.name) = .ok (l.filter.admits scope level) := by
  simp only [admits, Level.ofName?_name]

/-- The trace for a scope and a level whose heading can be filled. -/
theorem trace_eq_ok {l : Log} {scope heading : String} {level : Level}
    (hheading : l.heading dialect scope level.name = .ok heading) :
    l.trace dialect scope level.name =
      .ok (if l.filter.admits scope level then .headed heading else .silent) := by
  rw [trace, admits_level, hheading]
  cases l.filter.admits scope level <;> rfl

/-- Every scope and level has a trace. -/
theorem exists_trace {l : Log} (hfills : l.FormatFills dialect) (scope : String) (level : Level) :
    ∃ t, l.trace dialect scope level.name = .ok t := by
  obtain ⟨heading, hheading⟩ := hfills scope level
  exact ⟨_, trace_eq_ok hheading⟩

end Log

namespace Tracer

variable {dialect : Log.Dialect} {t : Tracer}

theorem tell_gives (hopen : ∀ l ∈ t.log, l.sink.isOpen = true) (trace : Log.Trace)
    (values : List Value) :
    (t.tell trace values).Gives (.ok ()) := by
  rw [tell]
  cases hlog : t.log with
  | none => exact fun _ => rfl
  | some l => exact Log.tell_gives (hopen l hlog) trace values

theorem report_gives (hopen : ∀ l ∈ t.log, l.sink.isOpen = true)
    (hfills : ∀ l ∈ t.log, l.FormatFills dialect)
    (r : Log.Report) : (t.report dialect r).Gives (.ok ()) := by
  rw [report]
  cases hlog : t.log with
  | none => exact fun _ => rfl
  | some l => exact Log.report_gives (hopen l hlog) (hfills l hlog) r

theorem exists_trace (hfills : ∀ l ∈ t.log, l.FormatFills dialect) (scope : String)
    (level : Log.Level) :
    ∃ trace, t.trace dialect scope level.name = .ok trace := by
  rw [trace]
  cases hlog : t.log with
  | none => exact ⟨.silent, rfl⟩
  | some l => exact Log.exists_trace (hfills l hlog) scope level

end Tracer

/-- Work that tells by tasks that always succeed always has its result. -/
theorem Tells.gives {ε τ α : Type} {tell : τ → Task ε PUnit} {work : Task ε α} {told : List τ}
    {a : α} (h : Tells tell work told a) (htell : ∀ t, (tell t).Gives (.ok ⟨⟩)) :
    work.Gives (.ok a) := by
  rw [h]
  exact (Task.Gives.forM fun t _ => htell t).bind (.ofExcept (.ok a))

namespace Conversion

variable {lib : Library}

/-- Tell a notice under the trace of its stage. -/
def tellNotice (tracer : Tracer) (traces : List (Stage × Log.Trace)) (n : Notice) :
    Task Failure PUnit :=
  Task.mapError .log (tracer.tell (traceOf traces n.stage) [.text n.message])

/-- The model of a project, where each stage tells what it skips when it comes to it. -/
def compileTelling (lib : Library) (project : Value) (tracer : Tracer) : Task Failure Model := do
  let traces ← stageTraces lib tracer
  let compiled ← tellingCompileProject (tellNotice tracer traces) project
  Task.ofExcept (compiled.mapError .diagram)

/-- Telling everything before the model is made is telling it stage by stage. -/
theorem compileTraced_eq (lib : Library) (project : Value) (tracer : Tracer) :
    compileTraced lib project tracer = compileTelling lib project tracer := by
  unfold compileTraced compileTelling
  refine congrArg _ (funext fun traces => ?_)
  rw [tells_compileProject, projectNotices, compileProject]
  cases Diagram.ofProject project with
  | error e => rfl
  | ok read =>
    have hloop := forIn_eq_forM (tellNotice tracer traces)
      (read.2.map (fun s => ⟨.graph, s.message⟩) ++ read.1.notices)
    rw [bind_assoc, pure_bind]
    exact congrArg (· >>= fun _ => Task.ofExcept (.ok read.1.compile)) hloop

/-- The stages with the traces that a tracer has for them. -/
theorem stageTraces_eq {t : Tracer} {trace : Stage → Log.Trace}
    (h : ∀ s : Stage, t.trace lib.dialect s.name s.level.name = .ok (trace s)) :
    stageTraces lib t = Task.ofExcept (.ok (Stage.all.map fun s => (s, trace s))) := by
  rw [stageTraces, mapM_eq_ok fun s _ => by rw [h s]; rfl]

theorem traceOf_stages (trace : Stage → Log.Trace) (s : Stage) :
    traceOf (Stage.all.map fun s => (s, trace s)) s = trace s := by
  cases s <;> rfl

/-- All that it takes to tell is a trace for each stage. -/
theorem stageTraces_gives_of_traces {t : Tracer}
    (htraces : ∀ s : Stage, ∃ trace, t.trace lib.dialect s.name s.level.name = .ok trace) :
    ∃ traces, (stageTraces lib t).Gives (.ok traces) := by
  choose trace htrace using htraces
  rw [stageTraces_eq htrace]
  exact ⟨_, .ofExcept _⟩

section Outcome

variable {t : Tracer}

theorem compileTelling_gives_of_traces (hopen : ∀ l ∈ t.log, l.sink.isOpen = true)
    (htraces : ∀ s : Stage, ∃ trace, t.trace lib.dialect s.name s.level.name = .ok trace)
    (project : Value) :
    (compileTelling lib project t).Gives ((compileProject project).mapError .diagram) := by
  obtain ⟨traces, htraces⟩ := stageTraces_gives_of_traces htraces
  have hcompiled : (tellingCompileProject (tellNotice t traces) project).Gives
      (.ok (compileProject project)) :=
    (tells_compileProject _ project).gives fun n =>
      (t.tell_gives hopen (traceOf traces n.stage) [.text n.message]).mapError Failure.log
  exact htraces.bind (hcompiled.bind (.ofExcept _))

theorem compileTelling_gives (hopen : ∀ l ∈ t.log, l.sink.isOpen = true)
    (hfills : ∀ l ∈ t.log, l.FormatFills lib.dialect) (project : Value) :
    (compileTelling lib project t).Gives ((compileProject project).mapError .diagram) :=
  compileTelling_gives_of_traces hopen (fun s => t.exists_trace hfills s.name s.level) project

/-- A tracer that was started reports a failure and passes it on. -/
theorem withTracer_outcome {w w' : Workspace}
    (hstart : (Tracer.start lib.dialect).perform w = (.ok t, w'))
    (hfills : ∀ l ∈ t.log, l.FormatFills lib.dialect) {α : Type} {run : Tracer → Task Failure α}
    {r : Except Failure α} (hrun : (run t).Gives r) : ((withTracer lib run).perform w).1 = r := by
  have hstarted : (Task.mapError Failure.log (Tracer.start lib.dialect)).perform w = (.ok t, w') :=
    Task.perform_mapError_eq_ok.2 hstart
  have hreported : ∀ failure : Failure,
      (Task.mapError Failure.log (t.report lib.dialect failure.report)).Gives (.ok ⟨⟩) := fun failure =>
    (t.report_gives (Tracer.start_eq_ok hstart) hfills failure.report).mapError Failure.log
  rw [withTracer, Task.perform_bind_of_ok hstarted]
  exact hrun.passOn hreported w'

end Outcome

/-- The scenario of a project, compiled with nobody to tell anything to. -/
def compileSilently (project name description : Value) : Except DiagramError Scenario :=
  ((tellingCompileProject (m := Id) (fun _ => pure ⟨⟩) project).run).map
    (Scenario.mk name description)

theorem compileSilently_eq (project name description : Value) :
    compileSilently project name description =
      (compileProject project).map (Scenario.mk name description) := by
  rw [compileSilently, tells_compileProject]
  simp

/-- Compiling under a tracer that was started, each stage telling what it skips when it comes to it,
has the outcome of compiling with nobody to tell: the same scenario or the same error. -/
theorem compileLogged_transparent {w w' : Workspace} {t : Tracer}
    (hstart : (Tracer.start lib.dialect).perform w = (.ok t, w'))
    (hfills : ∀ l ∈ t.log, l.FormatFills lib.dialect)
    (project name description : Value) :
    (compileLogged lib project name description = do
        return ⟨name, description, ← withTracer lib (compileTelling lib project)⟩) ∧
      ((compileLogged lib project name description).perform w).1 =
        (compileSilently project name description).mapError .diagram := by
  have htraced : compileLogged lib project name description = do
      return ⟨name, description, ← withTracer lib (compileTelling lib project)⟩ := by
    rw [compileLogged, funext (compileTraced_eq lib project)]
  refine ⟨htraced, ?_⟩
  have hmodel := withTracer_outcome hstart hfills
    (compileTelling_gives (Tracer.start_eq_ok hstart) hfills project)
  rw [htraced, Task.perform_thenReturn, hmodel, compileSilently_eq]
  cases compileProject project <;> rfl

/-- A workspace that asks for a file of all there is to tell. -/
def loud : Workspace :=
  ⟨((Settings.default.set .logEnabled (.bool true)).set .logFile (.text "compile.log")).set
    .logLevel (.text "DEBUG"), .empty, ""⟩

/-- A project of one node, which has no id. -/
def namelessProject : Value :=
  .object [("json", .object [("nodes", .list [.null]), ("edges", .list [])])]

theorem start_loud : ∃ t w',
    (Tracer.start Library.basic.dialect).perform loud = (.ok t, w') ∧
      ∀ l ∈ t.log, l.FormatFills Library.basic.dialect := by
  refine ⟨_, _, rfl, ?_⟩
  rintro _ ⟨⟩
  exact Log.formatFills_default rfl

theorem compileLogged_loud :
    ((compileLogged .basic namelessProject (.text "Shop") .null).perform loud).1 =
        .ok ⟨.text "Shop", .null, ⟨[], [], [], []⟩⟩ ∧
      ((compileLogged .basic .null (.text "Shop") .null).perform loud).1 =
        .error (.diagram .noGraph) := by
  obtain ⟨t, w', hstart, hfills⟩ := start_loud
  have hcompiled := (compileLogged_transparent hstart hfills namelessProject (.text "Shop") .null).2
  have hfailed := (compileLogged_transparent hstart hfills .null (.text "Shop") .null).2
  constructor
  · rw [hcompiled]
    rfl
  · rw [hfailed]
    rfl

example :
    ((compileLogged .basic namelessProject (.text "Shop") .null).perform loud).2.folder.files.get?
      "compile.log" = some ("WARNING graph: skipping node #0 without id\n" ++
      "INFO    compile: 0 activities, 0 handled, 0 connections\n") := by
  decide +kernel

end Conversion

end FlowDiagram
