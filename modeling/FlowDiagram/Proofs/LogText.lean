import FlowDiagram.Proofs.Folders
import FlowDiagram.Proofs.Opening

/-! # The text of a log

What a sink holds is the text on the error stream, or that of its file.  Telling and reporting add
what they print at its end and do nothing else, and once a file is closed they fail and do nothing at
all.
-/

namespace FlowDiagram

namespace Log

/-- The format of the log fills for every scope and level. -/
def FormatFills (dialect : Dialect) (l : Log) : Prop :=
  ∀ scope (level : Level), ∃ s, l.heading dialect scope level.name = .ok s

/-- What a heading says is a matter of the format. -/
theorem FormatFills.congr {dialect : Dialect} {l l' : Log} (hfills : l.FormatFills dialect)
    (hformat : l'.format = l.format) : l'.FormatFills dialect := by
  intro scope level
  rw [heading, hformat]
  exact hfills scope level

/-- What is told under a trace, if it is not silent. -/
def Trace.line? (t : Trace) (values : List Value) : Option String :=
  match t with
  | silent => none
  | headed heading => some (" ".intercalate (heading :: values.map Value.display) ++ "\n")

theorem Trace.line?_eq_none_iff {t : Trace} {values : List Value} :
    t.line? values = none ↔ t = silent := by
  cases t <;> simp [line?]

/-- What is reported of an error under a heading. -/
def Report.entry (r : Report) (heading : String) : String :=
  " ".intercalate ([heading, r.summary, "\n"] ++ r.lines) ++ "\n"

/-- The heading of what a log reports. -/
def reportHeading (dialect : Dialect) (l : Log) : Except Error String :=
  l.heading dialect "Exception" Level.error.name

/-- The text that a sink which was not removed holds in a workspace. -/
inductive Sink.Holds (w : Workspace) : Sink → String → Prop where
  | errors : Holds w .errors w.errors
  | file {name s : String} {isOpen : Bool} :
      w.folder.read name = .ok s → Holds w (.file name isOpen true) s

/-- A sink that was opened holds what the error stream does, or nothing yet. -/
theorem Opens.exists_holds {d : Folder} {v : Value} {sink : Sink} {w : Workspace}
    (h : Opens d v sink w.folder) : ∃ text, sink.Holds w text := by
  cases h with
  | errors => exact ⟨_, .errors⟩
  | file _ hwrite => exact ⟨"", .file (Folder.read_write hwrite)⟩

/-- The work succeeds, and all it does is to add a text to what a sink holds. -/
def Sink.Adds {ε : Type} (sink : Sink) (work : Task ε PUnit) (added : String) : Prop :=
  ∀ ⦃w s⦄, sink.Holds w s →
    ∃ w', work.perform w = (.ok ⟨⟩, w') ∧ sink.Holds w' (s ++ added) ∧ w'.settings = w.settings

namespace Sink.Adds

variable {ε ε' α : Type} {sink : Sink} {work next : Task ε PUnit} {added added' : String}

theorem nothing (sink : Sink) : sink.Adds (pure ⟨⟩ : Task ε PUnit) "" := by
  intro w s hholds
  exact ⟨w, rfl, by rwa [String.append_empty], rfl⟩

theorem bind (h : sink.Adds work added) (hnext : sink.Adds next added') :
    sink.Adds (do work; next) (added ++ added') := by
  intro w s hholds
  obtain ⟨w₁, hwork, hholds₁, hsettings₁⟩ := h hholds
  obtain ⟨w₂, hrest, hholds₂, hsettings₂⟩ := hnext hholds₁
  refine ⟨w₂, ?_, ?_, hsettings₂.trans hsettings₁⟩
  · rw [Task.perform_bind_of_ok hwork, hrest]
  · rwa [← String.append_assoc]

theorem mapError (h : sink.Adds work added) (f : ε → ε') :
    sink.Adds (Task.mapError f work) added := by
  intro w s hholds
  obtain ⟨w', hwork, hholds', hsettings⟩ := h hholds
  exact ⟨w', by rw [Task.perform_mapError, hwork]; rfl, hholds', hsettings⟩

/-- What is done for one item after another adds one text after another. -/
theorem forM {f : α → Task ε PUnit} {added : α → String} {xs : List α}
    (h : ∀ x ∈ xs, sink.Adds (f x) (added x)) :
    sink.Adds (ForM.forM xs f) (String.join (xs.map added)) := by
  induction xs with
  | nil => exact .nothing sink
  | cons x xs ih =>
    rw [List.forM_cons, List.map_cons, String.join_cons]
    exact (h x (by simp)).bind (ih fun y hy => h y (by simp [hy]))

end Sink.Adds

variable {l : Log}

theorem write_adds (hopen : l.sink.isOpen = true) (s : String) : l.sink.Adds (l.write s) s := by
  unfold write
  generalize l.sink = sink at hopen
  intro w text hholds
  cases hholds with
  | errors => exact ⟨_, rfl, .errors, rfl⟩
  | @file name _ isOpen hread =>
    obtain rfl : isOpen = true := hopen
    exact ⟨_, rfl, .file (Folder.read_append hread s), rfl⟩

theorem tell_adds (hopen : l.sink.isOpen = true) (t : Trace) (values : List Value) :
    l.sink.Adds (l.tell t values) ((t.line? values).getD "") := by
  cases t with
  | silent => exact .nothing l.sink
  | headed heading => exact write_adds hopen _

theorem report_adds {dialect : Dialect} (hopen : l.sink.isOpen = true) {heading : String}
    (hheading : l.reportHeading dialect = .ok heading) (r : Report) :
    l.sink.Adds (l.report dialect r) (r.entry heading) := by
  rw [report, ← reportHeading, hheading]
  exact write_adds hopen _

section Closed

variable {name : String} {kept : Bool} (hclosed : l.sink = .file name false kept) (w : Workspace)

include hclosed

theorem write_closed (s : String) : (l.write s).perform w = (.error .closed, w) := by
  rw [write, hclosed]
  rfl

theorem tell_closed (heading : String) (values : List Value) :
    (l.tell (.headed heading) values).perform w = (.error .closed, w) :=
  write_closed hclosed w _

theorem report_closed {dialect : Dialect} {heading : String}
    (hheading : l.reportHeading dialect = .ok heading) (r : Report) :
    (l.report dialect r).perform w = (.error .closed, w) := by
  rw [report, ← reportHeading, hheading]
  exact write_closed hclosed w _

theorem flush_closed : l.flush.perform w = (.error .closed, w) := by
  rw [flush, hclosed]
  rfl

end Closed

end Log

end FlowDiagram
