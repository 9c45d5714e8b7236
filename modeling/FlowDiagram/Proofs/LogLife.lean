import FlowDiagram.Proofs.Tracing
import Mathlib.Data.List.DropRight

/-! # The life of a log file

A tracer that was started is called in whatever order: traces are obtained from it and told under,
errors are reported, and its log is flushed, closed and opened anew.  A trace keeps the heading that
it was obtained with, and writes wherever the log does when it is told under.  At every point the file
of the log holds what was printed since it was last opened.
-/

namespace FlowDiagram.Tracer

open Log (Dialect Error Trace Report)

/-- A call of a tracer.  A trace that was obtained from it is known by its number. -/
inductive Call where
  | trace (scope levelName : String)
  | tell (number : Nat) (values : List Value)
  | report (r : Report)
  | flush
  | close
  | reopen

namespace Call

def isReopen : Call → Bool
  | reopen => true
  | _ => false

def isClose : Call → Bool
  | close => true
  | _ => false

/-- Whether a log is open after a call, if that says whether it is before. -/
def leavesOpen (isOpen : Bool) : Call → Bool
  | reopen => true
  | close => false
  | _ => isOpen

/-- What a call makes of a tracer and the traces that were obtained from it.  Under a number that no
trace has, nothing is told. -/
def task (dialect : Dialect) (t : Tracer) (traces : List Trace) :
    Call → Task Error (Tracer × List Trace)
  | trace scope levelName => do
    return (t, traces ++ [← Task.ofExcept (t.trace dialect scope levelName)])
  | tell number values => do
    t.tell (traces.getD number .silent) values
    return (t, traces)
  | report r => do
    t.report dialect r
    return (t, traces)
  | flush => do
    t.flush
    return (t, traces)
  | close => return (t.close, traces)
  | reopen => do return (← t.reopen, traces)

end Call

/-- A tracer in use, with the traces that were obtained from it. -/
structure Life where
  dialect : Dialect
  tracer : Tracer
  traces : List Trace
  workspace : Workspace

namespace Life

/-- The outcome of a call, and the life after it. -/
def perform (life : Life) (c : Call) : Except Error Unit × Life :=
  match (c.task life.dialect life.tracer life.traces).perform life.workspace with
  | (.ok (t, traces), w) => (.ok (), ⟨life.dialect, t, traces, w⟩)
  | (.error e, w) => (.error e, { life with workspace := w })

def after (life : Life) (c : Call) : Life := (life.perform c).2

def run (life : Life) (calls : List Call) : Life := calls.foldl after life

/-- Calls with the lives that they are made in. -/
def history (life : Life) : List Call → List (Life × Call)
  | [] => []
  | c :: calls => (life, c) :: (life.after c).history calls

/-- What a call prints if it succeeds. -/
def print? (life : Life) : Call → Option String
  | .tell number values => (life.traces.getD number .silent).line? values
  | .report r => life.tracer.log.bind fun l => (l.reportHeading life.dialect).toOption.map r.entry
  | _ => none

/-- The call prints or flushes, which takes an open file. -/
def NeedsOpen (life : Life) (c : Call) : Prop := (life.print? c).isSome = true ∨ c = .flush

/-- What a call did print. -/
def printed (life : Life) (c : Call) : String :=
  if (life.perform c).1.isOk then (life.print? c).getD "" else ""

end Life

/-- What was printed since the log was last opened. -/
def printedSinceOpening (history : List (Life × Call)) : String :=
  String.join ((history.rtakeWhile fun p => !p.2.isReopen).map fun p => p.1.printed p.2)

/-- The log was closed since it was last opened. -/
def closedSinceOpening (calls : List Call) : Bool :=
  (calls.rtakeWhile fun c => !c.isReopen).any Call.isClose

namespace Life

variable {life : Life} {c : Call} {calls : List Call}

theorem run_snoc (life : Life) (calls : List Call) (c : Call) :
    life.run (calls ++ [c]) = (life.run calls).after c :=
  List.foldl_concat ..

theorem history_snoc (life : Life) (calls : List Call) (c : Call) :
    life.history (calls ++ [c]) = life.history calls ++ [(life.run calls, c)] := by
  induction calls generalizing life with
  | nil => rfl
  | cons c' calls ih => exact congrArg ((life, c') :: ·) (ih _)

theorem printedSinceOpening_snoc (history : List (Life × Call)) (life : Life) (c : Call) :
    printedSinceOpening (history ++ [(life, c)]) =
      if c.isReopen then "" else printedSinceOpening history ++ life.printed c := by
  unfold printedSinceOpening
  rw [List.rtakeWhile_concat]
  cases c.isReopen <;> simp [String.join_append, String.join_cons]

theorem closedSinceOpening_snoc (calls : List Call) (c : Call) :
    (!closedSinceOpening (calls ++ [c])) = c.leavesOpen !closedSinceOpening calls := by
  unfold closedSinceOpening
  rw [List.rtakeWhile_concat]
  cases c <;> simp [Call.isReopen, Call.isClose, Call.leavesOpen]

theorem printed_of_ok {life' : Life} (h : life.perform c = (.ok (), life')) :
    life.printed c = (life.print? c).getD "" := by
  rw [printed, h]
  rfl

theorem printed_of_error {e : Error} {life' : Life} (h : life.perform c = (.error e, life')) :
    life.printed c = "" := by
  rw [printed, h]
  rfl

theorem printed_of_none (h : life.print? c = none) : life.printed c = "" := by
  rw [printed, h]
  exact ite_self _

/-- A call that leaves the tracer and the traces as they are does its work. -/
theorem perform_of_work {work : Task Error Unit}
    (h : c.task life.dialect life.tracer life.traces = do
      work
      return (life.tracer, life.traces)) :
    life.perform c =
      let done := work.perform life.workspace
      (done.1, { life with workspace := done.2 }) := by
  have hwork := Task.perform_thenReturn work (fun _ => (life.tracer, life.traces)) life.workspace
  unfold perform
  rw [h, hwork]
  rcases work.perform life.workspace with ⟨_ | _, w⟩ <;> rfl

theorem perform_tell (life : Life) (number : Nat) (values : List Value) :
    life.perform (.tell number values) =
      let told := (life.tracer.tell (life.traces.getD number .silent) values).perform life.workspace
      (told.1, { life with workspace := told.2 }) :=
  perform_of_work rfl

theorem perform_report (life : Life) (r : Report) :
    life.perform (.report r) =
      let reported := (life.tracer.report life.dialect r).perform life.workspace
      (reported.1, { life with workspace := reported.2 }) :=
  perform_of_work rfl

theorem perform_flush (life : Life) :
    life.perform .flush =
      let flushed := life.tracer.flush.perform life.workspace
      (flushed.1, { life with workspace := flushed.2 }) :=
  perform_of_work rfl

theorem perform_tell_silent (number : Nat) (values : List Value)
    (hsilent : life.traces.getD number .silent = .silent) :
    life.perform (.tell number values) = (.ok (), life) := by
  rw [perform_tell, hsilent, tell]
  cases life.tracer.log <;> rfl

theorem perform_close (life : Life) :
    life.perform .close = (.ok (), { life with tracer := life.tracer.close }) := rfl

theorem perform_trace (life : Life) (scope levelName : String) :
    ∃ r traces, life.perform (.trace scope levelName) = (r, { life with traces := traces }) := by
  have htask : (Call.trace scope levelName).task life.dialect life.tracer life.traces =
      Task.ofExcept (life.tracer.trace life.dialect scope levelName) >>= fun t =>
        pure (life.tracer, life.traces ++ [t]) := rfl
  unfold perform
  rw [htask]
  cases life.tracer.trace life.dialect scope levelName with
  | ok t => exact ⟨_, _, rfl⟩
  | error e => exact ⟨_, life.traces, rfl⟩

theorem perform_reopen_of_openWith {l l' : Log} {w : Workspace} (hlog : life.tracer.log = some l)
    (hopen : (Log.openWith l.filter.includes l.filter.excludes).perform life.workspace =
      (.ok l', w)) :
    life.perform .reopen = (.ok (), ⟨life.dialect, ⟨life.tracer.enabled, some l'⟩, life.traces, w⟩) := by
  have hreopen : life.tracer.reopen.perform life.workspace =
      (.ok ⟨life.tracer.enabled, some l'⟩, w) := by
    rw [reopen, hlog]
    refine (Task.perform_thenReturn _ (fun l' => Tracer.mk life.tracer.enabled (some l')) _).trans ?_
    rw [hopen]
    rfl
  have htask : (Call.reopen.task life.dialect life.tracer life.traces).perform life.workspace =
      (.ok (⟨life.tracer.enabled, some l'⟩, life.traces), w) := by
    refine (Task.perform_thenReturn _ (fun t => (t, life.traces)) _).trans ?_
    rw [hreopen]
    rfl
  rw [perform, htask]

/-- The log is enabled and writes to a file, which holds a text.  What opening it anew asks for is as
it was when it was opened. -/
structure Keeps (life : Life) (name : String) (isOpen : Bool) (text : String) : Prop where
  log : ∃ l, life.tracer.log = some l ∧ l.sink = .file name isOpen true ∧ l.FormatFills life.dialect ∧
    l.format = life.workspace.settings.value .logFormat
  file : life.workspace.settings.value .logFile = .text name
  named : name ≠ ""
  level : ∃ level,
    (life.workspace.settings.value .logLevel).text?.bind Log.Level.ofName? = some level
  read : life.workspace.folder.read name = .ok text

namespace Keeps

variable {name text : String} {isOpen : Bool}

theorem of_adds (h : life.Keeps name isOpen text) {work : Task Error Unit} {added : String}
    (hadds : (Log.Sink.file name isOpen true).Adds work added) :
    ∃ w, work.perform life.workspace = (.ok (), w) ∧
      Keeps { life with workspace := w } name isOpen (text ++ added) := by
  obtain ⟨w, hwork, hholds, hsettings⟩ := hadds (.file h.read)
  refine ⟨w, hwork, ?_⟩
  cases hholds with
  | file hread =>
    constructor
    · rw [hsettings]
      exact h.log
    · rw [hsettings]
      exact h.file
    · exact h.named
    · rw [hsettings]
      exact h.level
    · exact hread

theorem print?_report (h : life.Keeps name isOpen text) (r : Report) :
    ∃ heading, life.print? (.report r) = some (r.entry heading) ∧
      ∀ l ∈ life.tracer.log, l.reportHeading life.dialect = .ok heading := by
  obtain ⟨l, hlog, -, hfills, -⟩ := h.log
  obtain ⟨heading, hheading⟩ : ∃ heading, l.reportHeading life.dialect = .ok heading :=
    hfills "Exception" .error
  refine ⟨heading, ?_, ?_⟩
  · rw [print?, hlog, Option.bind_some, hheading]
    rfl
  · rw [hlog]
    rintro _ ⟨⟩
    exact hheading

/-- A call that prints does so if the file is open. -/
theorem perform_open (h : life.Keeps name true text) {s : String} (hprint : life.print? c = some s) :
    ∃ life', life.perform c = (.ok (), life') ∧ life'.Keeps name true (text ++ s) := by
  obtain ⟨l, hlog, hsink, -⟩ := h.log
  have hopen : l.sink.isOpen = true := by
    rw [hsink]
    rfl
  cases c with
  | tell number values =>
    have htold := Log.tell_adds hopen (life.traces.getD number .silent) values
    rw [hsink, show Trace.line? _ values = some s from hprint] at htold
    obtain ⟨w, hperform, hkeeps⟩ := h.of_adds htold
    refine ⟨_, ?_, hkeeps⟩
    rw [perform_tell, tell, hlog, Option.elim_some, hperform]
  | report r =>
    obtain ⟨heading, hentry, hheading⟩ := h.print?_report r
    obtain rfl : r.entry heading = s := Option.some.inj (hentry.symm.trans hprint)
    have hreported := Log.report_adds hopen (hheading l hlog) r
    rw [hsink] at hreported
    obtain ⟨w, hperform, hkeeps⟩ := h.of_adds hreported
    refine ⟨_, ?_, hkeeps⟩
    rw [perform_report, report, hlog, Option.elim_some, hperform]
  | _ => cases hprint

/-- A call that prints fails if the file is closed, and nothing happens. -/
theorem perform_closed (h : life.Keeps name false text) {s : String}
    (hprint : life.print? c = some s) : life.perform c = (.error .closed, life) := by
  obtain ⟨l, hlog, hsink, -⟩ := h.log
  cases c with
  | tell number values =>
    cases htrace : life.traces.getD number .silent with
    | silent =>
      rw [print?, htrace] at hprint
      cases hprint
    | headed heading =>
      rw [perform_tell, htrace, tell, hlog, Option.elim_some, Log.tell_closed hsink]
  | report r =>
    obtain ⟨heading, -, hheading⟩ := h.print?_report r
    rw [perform_report, report, hlog, Option.elim_some, Log.report_closed hsink _ (hheading l hlog)]
  | _ => cases hprint

theorem perform_flush_open (h : life.Keeps name true text) :
    life.perform .flush = (.ok (), life) := by
  obtain ⟨l, hlog, hsink, -⟩ := h.log
  rw [perform_flush, flush, hlog, Option.elim_some, Log.flush, hsink]
  rfl

theorem perform_flush_closed (h : life.Keeps name false text) :
    life.perform .flush = (.error .closed, life) := by
  obtain ⟨l, hlog, hsink, -⟩ := h.log
  rw [perform_flush, flush, hlog, Option.elim_some, Log.flush_closed hsink]

/-- While the file is open a call that needs it so succeeds. -/
theorem succeeds_of_open (h : life.Keeps name true text) (hc : life.NeedsOpen c) :
    (life.perform c).1 = .ok () := by
  rcases hc with hprint | rfl
  · obtain ⟨_, hprint⟩ := Option.isSome_iff_exists.1 hprint
    obtain ⟨_, hperform, -⟩ := h.perform_open hprint
    rw [hperform]
  · rw [h.perform_flush_open]

/-- Once the file is closed a call that needs it open fails, and nothing happens. -/
theorem fails_of_closed (h : life.Keeps name false text) (hc : life.NeedsOpen c) :
    life.perform c = (.error .closed, life) := by
  rcases hc with hprint | rfl
  · obtain ⟨_, hprint⟩ := Option.isSome_iff_exists.1 hprint
    exact h.perform_closed hprint
  · exact h.perform_flush_closed

theorem after_close (h : life.Keeps name isOpen text) :
    (life.after .close).Keeps name false text := by
  obtain ⟨l, hlog, hsink, hfills, hformat⟩ := h.log
  have hclose : l.close = { l with sink := .file name false true } := by
    rw [Log.close, hsink]
  refine ⟨⟨l.close, ?_, ?_, ?_, ?_⟩, h.file, h.named, h.level, h.read⟩
  · rw [after, perform_close, close, hlog, Option.map_some]
  · rw [hclose]
  · exact hfills.congr (by rw [hclose])
  · rw [hclose]
    exact hformat

theorem of_openWith {w w' : Workspace} {t : Tracer} {l : Log} {includes excludes : List Log.Pattern}
    (hopen : (Log.openWith includes excludes).perform w = (.ok l, w')) (hlog : t.log = some l)
    (hfile : w.settings.value .logFile = .text name) (hname : name ≠ "") {dialect : Dialect}
    (hfills : l.FormatFills dialect) (traces : List Trace) :
    Keeps ⟨dialect, t, traces, w'⟩ name true "" := by
  obtain ⟨level, d, hlevel, hopens, -, hformat, rfl⟩ := Log.openWith_eq_ok_iff.1 hopen
  rw [hfile] at hopens
  have hvalue := Settings.value_noteAll w.settings Log.openingSettings
  obtain ⟨hsink, hread⟩ : l.sink = .file name true true ∧ d.read name = .ok "" := by
    generalize l.sink = sink at hopens
    cases hopens with
    | errors hempty => exact absurd hempty (by simpa [Value.truthy] using hname)
    | file _ hwrite => exact ⟨rfl, Folder.read_write hwrite⟩
  refine ⟨⟨l, hlog, hsink, hfills, ?_⟩, ?_, hname, ⟨level, ?_⟩, hread⟩
  · rw [hvalue, hformat]
  · rw [hvalue, hfile]
  · rw [hvalue, hlevel]

/-- Opening the log anew starts its file anew. -/
theorem perform_reopen (h : life.Keeps name isOpen text) :
    ∃ life', life.perform .reopen = (.ok (), life') ∧ life'.Keeps name true "" := by
  obtain ⟨l, hlog, -, hfills, hformat⟩ := h.log
  obtain ⟨level, hlevel⟩ := h.level
  obtain ⟨d, hwrite⟩ := Folder.exists_write_of_read h.read ""
  have hopens : Log.Opens life.workspace.folder (life.workspace.settings.value .logFile)
      (.file name true true) d := by
    rw [h.file]
    exact .file h.named hwrite
  obtain ⟨l', w, hformat', hopen⟩ : ∃ l' w, l'.format = l.format ∧
      (Log.openWith l.filter.includes l.filter.excludes).perform life.workspace = (.ok l', w) :=
    ⟨⟨⟨level, l.filter.includes, l.filter.excludes⟩, l.format, .file name true true⟩, _, rfl,
      Log.openWith_eq_ok_iff.2 ⟨level, d, hlevel, hopens, rfl, hformat, rfl⟩⟩
  exact ⟨_, perform_reopen_of_openWith hlog hopen,
    of_openWith hopen rfl h.file h.named (hfills.congr hformat') life.traces⟩

theorem of_start {dialect : Dialect} {w w' : Workspace} {t : Tracer} {l : Log}
    (hstart : (start dialect).perform w = (.ok t, w')) (hlog : t.log = some l)
    (hfile : w.settings.value .logFile = .text name) (hname : name ≠ "")
    (hfills : l.FormatFills dialect) : Keeps ⟨dialect, t, [], w'⟩ name true "" := by
  obtain ⟨-, -, _, _, -, -, hopen⟩ := (start_eq_ok_iff hlog).1 hstart
  exact of_openWith hopen hlog (by rw [Settings.value_noteAll, hfile]) hname hfills []

/-- A call that prints adds to the file what it did print. -/
theorem step_print (h : life.Keeps name isOpen text) {s : String} (hprint : life.print? c = some s) :
    (life.after c).Keeps name isOpen (text ++ life.printed c) := by
  cases isOpen with
  | true =>
    obtain ⟨life', hperform, hkeeps⟩ := h.perform_open hprint
    rwa [after, printed_of_ok hperform, hperform, hprint]
  | false =>
    have hperform := h.perform_closed hprint
    rwa [after, printed_of_error hperform, hperform, String.append_empty]

/-- A call adds to the file what it did print, unless it starts the file anew. -/
theorem step (h : life.Keeps name isOpen text) (c : Call) :
    (life.after c).Keeps name (c.leavesOpen isOpen)
      (if c.isReopen then "" else text ++ life.printed c) := by
  cases hprint : life.print? c with
  | some s =>
    have hstep := h.step_print hprint
    cases c with
    | tell | report => exact hstep
    | _ => cases hprint
  | none =>
    rw [printed_of_none hprint, String.append_empty]
    cases c with
    | trace scope levelName =>
      obtain ⟨r, traces, hperform⟩ := life.perform_trace scope levelName
      rw [after, hperform]
      exact ⟨h.log, h.file, h.named, h.level, h.read⟩
    | tell number values =>
      rw [after, perform_tell_silent number values (Trace.line?_eq_none_iff.1 hprint)]
      exact h
    | report r =>
      obtain ⟨_, hentry, -⟩ := h.print?_report r
      rw [hentry] at hprint
      cases hprint
    | flush =>
      cases isOpen with
      | true =>
        rw [after, h.perform_flush_open]
        exact h
      | false =>
        rw [after, h.perform_flush_closed]
        exact h
    | close => exact h.after_close
    | reopen =>
      obtain ⟨life', hperform, hkeeps⟩ := h.perform_reopen
      rw [after, hperform]
      exact hkeeps

/-- After any calls the file holds what was printed since it was last opened. -/
theorem run (h : life.Keeps name true "") (calls : List Call) :
    (life.run calls).Keeps name (!closedSinceOpening calls)
      (printedSinceOpening (life.history calls)) := by
  induction calls using List.reverseRecOn with
  | nil => exact h
  | append_singleton calls c ih =>
    rw [run_snoc, history_snoc, printedSinceOpening_snoc, closedSinceOpening_snoc]
    exact ih.step c

end Keeps

end Life

/-- However a tracer that writes to a file is called once it was started, at every point its file
holds what was printed since it was last opened.  While it is closed nothing can be printed, nor
flushed, and trying to does nothing; while it is open both succeed.  The log can always be closed and
opened anew, and telling under a silent trace never does anything. -/
theorem file_holds_printed {dialect : Dialect} {w w' : Workspace} {t : Tracer} {l : Log}
    {name : String} (hstart : (start dialect).perform w = (.ok t, w')) (hlog : t.log = some l)
    (hfile : w.settings.value .logFile = .text name) (hname : name ≠ "")
    (hfills : l.FormatFills dialect) (calls : List Call) :
    let started : Life := ⟨dialect, t, [], w'⟩
    let life := started.run calls
    life.workspace.folder.read name = .ok (printedSinceOpening (started.history calls)) ∧
      (closedSinceOpening calls = true → ∀ c, life.NeedsOpen c →
        ∃ e : Error, e.kind = "ValueError" ∧ life.perform c = (.error e, life)) ∧
      (closedSinceOpening calls = false → ∀ c, life.NeedsOpen c → (life.perform c).1 = .ok ()) ∧
      (life.perform .close).1 = .ok () ∧ (life.perform .reopen).1 = .ok () ∧
      ∀ number values, life.traces.getD number .silent = .silent →
        life.perform (.tell number values) = (.ok (), life) := by
  intro started life
  have hkeeps := (Life.Keeps.of_start hstart hlog hfile hname hfills).run calls
  refine ⟨hkeeps.read, ?closed, ?opened, rfl, ?reopen, fun _ _ => Life.perform_tell_silent _ _⟩
  case closed =>
    intro hclosed c hc
    rw [hclosed] at hkeeps
    exact ⟨.closed, rfl, hkeeps.fails_of_closed hc⟩
  case opened =>
    intro hopen c hc
    rw [hopen] at hkeeps
    exact hkeeps.succeeds_of_open hc
  case reopen =>
    obtain ⟨_, hreopen, -⟩ := hkeeps.perform_reopen
    rw [hreopen]

/-- A message is lost when its file is started anew, one is kept, and one comes when the file is
closed. -/
def threeMessages : List Call :=
  [.trace "graph" "WARNING", .tell 0 [.text "lost"], .close, .close, .reopen, .tell 0 [.text "kept"],
    .close, .tell 0 [.text "late"]]

theorem file_holds_kept : ∃ t w', (start .basic).perform Conversion.loud = (.ok t, w') ∧
    let life := (Life.mk .basic t [] w').run threeMessages
    life.workspace.folder.read "compile.log" = .ok "WARNING graph: kept\n" ∧
      ∃ e : Error, e.kind = "ValueError" ∧ life.perform .flush = (.error e, life) := by
  refine ⟨_, _, rfl, ?_⟩
  obtain ⟨hread, hclosed, -⟩ := file_holds_printed (w := Conversion.loud) rfl rfl rfl
    (show "compile.log" ≠ "" by decide) (Log.formatFills_default rfl) threeMessages
  refine ⟨hread.trans (congrArg Except.ok ?_), hclosed (by decide) .flush (.inr rfl)⟩
  decide +kernel

end FlowDiagram.Tracer
