import FlowDiagram.Log.Basic
import FlowDiagram.Proofs.Results
import FlowDiagram.Proofs.Tasks

/-! # Opening a log

A log is opened as the settings ask: at the level and with the format that they name, and on the sink
that they name, which is the error stream or a file that is started anew.  Nothing else in the
workspace matters and nothing else in it changes, but that the settings asked for are noted.
-/

namespace FlowDiagram

namespace Log

/-- The sink can be written to. -/
def Sink.isOpen : Sink → Bool
  | errors => true
  | file _ isOpen _ => isOpen

/-- In a folder a setting opens a sink, which leaves another folder. -/
inductive Opens (d : Folder) : Value → Sink → Folder → Prop where
  | errors {v : Value} : v.truthy = false → Opens d v .errors d
  | file {name : String} {d' : Folder} :
      name ≠ "" → d.write name "" = .ok d' → Opens d (.text name) (.file name true true) d'

theorem Opens.isOpen {d d' : Folder} {v : Value} {sink : Sink} (h : Opens d v sink d') :
    sink.isOpen = true := by
  cases h <;> rfl

variable {v : Value} {sink : Sink} {l : Log} {w w' : Workspace}

theorem openSink_eq_ok_iff :
    (openSink v).perform w = (.ok sink, w') ↔
      ∃ d, Opens w.folder v sink d ∧ w' = { w with folder := d } := by
  unfold openSink
  split
  · next htruthy =>
    split
    · next name =>
      have hname : name ≠ "" := by simpa [Value.truthy] using htruthy
      rw [Task.perform_bind_eq_ok]
      constructor
      · rintro ⟨_, w₁, hwrite, ⟨⟩⟩
        obtain ⟨d, hd, rfl⟩ := Task.perform_inFolder_eq_ok.1 hwrite
        exact ⟨d, .file hname (mapError_eq_ok.1 hd), rfl⟩
      · rintro ⟨d, hopens, rfl⟩
        cases hopens with
        | errors hempty =>
          rw [htruthy] at hempty
          cases hempty
        | file _ hwrite =>
          exact ⟨(), _, Task.perform_inFolder_eq_ok.2 ⟨d, mapError_eq_ok.2 hwrite, rfl⟩, rfl⟩
    · next hv =>
      constructor
      · rintro ⟨⟩
      · rintro ⟨d, hopens, rfl⟩
        cases hopens with
        | errors hempty =>
          rw [htruthy] at hempty
          cases hempty
        | @file name => exact absurd rfl (hv name)
  · next hempty =>
    constructor
    · rintro ⟨⟩
      exact ⟨_, .errors (Bool.eq_false_iff.2 hempty), rfl⟩
    · rintro ⟨d, hopens, rfl⟩
      cases hopens with
      | errors => rfl
      | file hname => exact absurd (by simpa [Value.truthy] using hname) hempty

/-- The settings that opening a log notes. -/
def openingSettings : List Setting := [.logFile, .logLevel, .logFormat]

theorem openWith_eq_ok_iff {includes excludes : List Pattern} :
    (openWith includes excludes).perform w = (.ok l, w') ↔
      ∃ level d, (w.settings.value .logLevel).text?.bind Level.ofName? = some level ∧
        Opens w.folder (w.settings.value .logFile) l.sink d ∧
        l.filter = ⟨level, includes, excludes⟩ ∧ l.format = w.settings.value .logFormat ∧
        w' = { w with settings := w.settings.noteAll openingSettings, folder := d } := by
  simp only [openWith, Task.perform_setting_bind, Settings.value_note]
  cases hlevel : (w.settings.value .logLevel).text?.bind Level.ofName? with
  | none =>
    constructor
    · rintro ⟨⟩
    · rintro ⟨_, _, ⟨⟩, -⟩
  | some level =>
    simp only [Task.perform_setting_bind, Settings.value_note, Task.perform_bind_eq_ok]
    constructor
    · rintro ⟨sink, _, hsink, ⟨⟩⟩
      obtain ⟨d, hopens, rfl⟩ := openSink_eq_ok_iff.1 hsink
      exact ⟨level, d, rfl, hopens, rfl, rfl, rfl⟩
    · rintro ⟨_, d, ⟨⟩, hopens, hfilter, hformat, rfl⟩
      refine ⟨l.sink, _, openSink_eq_ok_iff.2 ⟨d, hopens, rfl⟩, ?_⟩
      rw [← hfilter, ← hformat]
      rfl

end Log

namespace Tracer

open Log

/-- The settings that starting a tracer notes before its log is opened. -/
def startingSettings : List Setting := [.logEnabled, .logIncludes, .logExcludes]

variable {dialect : Dialect} {t : Tracer} {l : Log} {w w' : Workspace}

theorem start_eq_ok_iff (hlog : t.log = some l) :
    (start dialect).perform w = (.ok t, w') ↔
      t.enabled = w.settings.value .logEnabled ∧ t.enabled.truthy = true ∧
        ∃ includes excludes, readPatterns dialect (w.settings.value .logIncludes) = .ok includes ∧
          readPatterns dialect (w.settings.value .logExcludes) = .ok excludes ∧
          (openWith includes excludes).perform
            { w with settings := w.settings.noteAll startingSettings } = (.ok l, w') := by
  obtain ⟨enabled, _⟩ := t
  obtain rfl : _ = some l := hlog
  simp only [start, Task.perform_setting_bind]
  cases htruthy : (w.settings.value .logEnabled).truthy with
  | false =>
    constructor
    · rintro ⟨⟩
    · rintro ⟨rfl, h, -⟩
      rw [htruthy] at h
      cases h
  | true =>
    simp only [if_true, Task.perform_setting_bind, Settings.value_note,
      Task.perform_ofExcept_bind_eq_ok]
    constructor
    · rintro ⟨includes, hincludes, excludes, hexcludes, h⟩
      obtain ⟨l', _, hopen, ⟨⟩⟩ := Task.perform_bind_eq_ok.1 h
      exact ⟨rfl, htruthy, includes, excludes, hincludes, hexcludes, hopen⟩
    · rintro ⟨rfl, -, includes, excludes, hincludes, hexcludes, hopen⟩
      exact ⟨includes, hincludes, excludes, hexcludes,
        Task.perform_bind_eq_ok.2 ⟨l, w', hopen, rfl⟩⟩

/-- The log of a tracer that was started can be written to. -/
theorem start_eq_ok (h : (start dialect).perform w = (.ok t, w')) :
    ∀ l ∈ t.log, l.sink.isOpen = true := by
  intro l hlog
  obtain ⟨-, -, _, _, -, -, hopen⟩ := (start_eq_ok_iff hlog).1 h
  obtain ⟨_, _, -, hopens, -⟩ := openWith_eq_ok_iff.1 hopen
  exact hopens.isOpen

end Tracer

end FlowDiagram
