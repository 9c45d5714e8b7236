import FlowDiagram.Proofs.FileChanges
import FlowDiagram.Proofs.LogFilter

/-! # The course of a run

A run that ends well takes one course: its tracer is started, which empties the file of its log, the
project is read and compiled, and each result and the drawing are written, as far as the settings ask for
them.  What each of these leaves in its file stays there if the files of the rest are others.
-/

namespace FlowDiagram

namespace Settings

theorem AsksFor.congr {dialect : Log.Dialect} {t t' : Settings} {f : Log.Filter}
    (h : t'.AsksFor dialect f) (hvalue : t'.value = t.value) : t.AsksFor dialect f := by
  obtain ⟨hlevel, hincludes, hexcludes⟩ := h
  rw [hvalue] at hlevel hincludes hexcludes
  exact ⟨hlevel, hincludes, hexcludes⟩

/-- The names of the files for what is made of a project, in the order in which they are written. -/
def productFiles (t : Settings) : List String :=
  (t.value .outputFile).text?.toList ++
    ((t.value .handlersFile).text?.toList ++ t.drawingFile?.toList)

/-- The names of the files that a run is for. -/
def targets (t : Settings) : List String := t.logFile?.toList ++ t.productFiles

end Settings

namespace Tracer

variable {dialect : Log.Dialect} {t : Tracer} {w w' : Workspace}

/-- A log is what the settings ask for, on a sink that was opened in a folder and left another. -/
structure OpenedAs (dialect : Log.Dialect) (s : Settings) (d : Folder) (l : Log) (d' : Folder) :
    Prop where
  filter : s.AsksFor dialect l.filter
  format : l.format = s.value .logFormat
  sink : Log.Opens d (s.value .logFile) l.sink d'

/-- Once a tracer was started, only the file of its log has changed, if it is enabled. -/
structure Started (dialect : Log.Dialect) (w : Workspace) (t : Tracer) (w' : Workspace) : Prop where
  same : w.SameBut w.settings.logFile?.toList w'
  targets : ∀ l ∈ t.log, l.sink.targets ⊆ w.settings.logFile?.toList
  enabled : (w.settings.value .logEnabled).truthy = true →
    ∃ l, t.log = some l ∧ OpenedAs dialect w.settings w.folder l w'.folder
  disabled : (w.settings.value .logEnabled).truthy = false → t.log = none

theorem exists_log_of_start (hstart : (start dialect).perform w = (.ok t, w'))
    (henabled : (w.settings.value .logEnabled).truthy = true) : ∃ l, t.log = some l := by
  simp only [start, Task.perform_setting_bind, henabled, if_true,
    Task.perform_ofExcept_bind_eq_ok] at hstart
  obtain ⟨includes, -, excludes, -, hopened⟩ := hstart
  obtain ⟨l, _, -, ⟨⟩⟩ := Task.perform_bind_eq_ok.1 hopened
  exact ⟨l, rfl⟩

theorem log_eq_none_of_start (hstart : (start dialect).perform w = (.ok t, w'))
    (hdisabled : (w.settings.value .logEnabled).truthy = false) : t.log = none := by
  simp only [start, Task.perform_setting_bind, hdisabled] at hstart
  cases hstart
  rfl

theorem started_of_start (hstart : (start dialect).perform w = (.ok t, w')) :
    Started dialect w t w' where
  same := (start_changesOnly dialect w).sameBut hstart
  targets := targets_of_start hstart
  enabled := by
    intro henabled
    obtain ⟨l, hlog⟩ := exists_log_of_start hstart henabled
    obtain ⟨-, -, _, _, -, -, hopen⟩ := (start_eq_ok_iff hlog).1 hstart
    obtain ⟨_, d, -, hopens, -, hformat, rfl⟩ := Log.openWith_eq_ok_iff.1 hopen
    rw [Settings.value_noteAll] at hopens hformat
    exact ⟨l, hlog, asksFor_of_start hstart hlog, hformat, hopens⟩
  disabled := log_eq_none_of_start hstart

theorem Started.of_noted {ss : List Setting}
    (h : Started dialect { w with settings := w.settings.noteAll ss } t w') :
    Started dialect w t w' := by
  obtain ⟨hsame, htargets, henabled, hdisabled⟩ := h
  have hnoted : (w.settings.noteAll ss).value = w.settings.value :=
    funext (Settings.value_noteAll w.settings ss)
  simp only [Settings.logFile?_congr hnoted, hnoted] at hsame htargets henabled hdisabled
  refine ⟨⟨hsame.settings.trans hnoted, hsame.folder⟩, htargets, ?_, hdisabled⟩
  intro htruthy
  obtain ⟨l, hlog, hfilter, hformat, hsink⟩ := henabled htruthy
  rw [hnoted] at hformat hsink
  exact ⟨l, hlog, hfilter.congr hnoted, hformat, hsink⟩

/-- A log that the settings ask for is started with an empty file. -/
theorem Started.log (h : Started dialect w t w')
    (hasks : w.settings.asks .logEnabled .logFile = true) :
    ∃ name l, w.settings.value .logFile = .text name ∧ t.log = some l ∧
      l.sink = .file name true true ∧ w.settings.AsksFor dialect l.filter ∧
        l.format = w.settings.value .logFormat ∧ w'.folder.read name = .ok "" := by
  obtain ⟨henabled, hfile⟩ := Bool.and_eq_true_iff.1 hasks
  obtain ⟨l, hlog, hfilter, hformat, hopens⟩ := h.enabled henabled
  generalize hv : w.settings.value .logFile = v at hopens hfile
  generalize hsink : l.sink = sink at hopens
  generalize hd : w'.folder = d at hopens
  cases hopens with
  | errors hempty =>
    rw [hempty] at hfile
    cases hfile
  | @file name _ _ hwrite =>
    exact ⟨name, l, rfl, hlog, hsink, hfilter, hformat, Folder.read_write hwrite⟩

theorem flush_eq_ok (h : t.flush.perform w = (.ok (), w')) : w' = w := by
  rw [flush] at h
  cases hlog : t.log with
  | none =>
    rw [hlog] at h
    cases h
    rfl
  | some l =>
    rw [hlog, Option.elim_some, Log.flush] at h
    split at h <;> cases h
    rfl

end Tracer

/-- What a log tells of some notices. -/
def Log.textOf (dialect : Dialect) (l : Log) (notices : List Notice) : String :=
  String.join (((notices.map Notice.entry).filter fun e => l.filter.Keeps e).map (l.line dialect))

namespace Conversion

variable {lib : Library}

/-- The project that a value names in a folder. -/
def readInput (lib : Library) (d : Folder) : Value → Except Failure Value
  | .text name => readProject lib d name
  | _ => .error .wrongType

theorem perform_load (v : Value) (w : Workspace) :
    (load lib v).perform w = (readInput lib w.folder v, w) := by
  cases v <;> rfl

theorem readProject_congr {d d' : Folder} {name : String} (h : d'.read name = d.read name) :
    readProject lib d' name = readProject lib d name := by
  simp only [readProject, h]

theorem compileProject_of_empty {d : Folder} {name : String} {project : Value}
    (hempty : d.read name = .ok "") (hread : readProject lib d name = .ok project) :
    ∃ e, compileProject project = .error e := by
  simp only [readProject, hempty] at hread
  split at hread
  · obtain ⟨_, ⟨⟩, hjson⟩ := bind_eq_ok.1 hread
    obtain ⟨v, hv, -⟩ := bind_eq_ok.1 hjson
    cases hv
  · split at hread
    · obtain ⟨_, ⟨⟩, hyaml⟩ := bind_eq_ok.1 hread
      obtain ⟨v, hv, ⟨⟩⟩ := bind_eq_ok.1 hyaml
      have hnull : v = .null := by
        rw [show fileText "" = "" from rfl, lib.readYaml_empty] at hv
        exact (Except.ok.inj hv).symm
      subst hnull
      exact ⟨_, rfl⟩
    · cases hread

variable {w w' : Workspace} {t : Tracer} {project : Value} {model : Model}

/-- The file of the log is not that of the project, which would be empty once the log was opened. -/
theorem apart_of_started (hstarted : Tracer.Started lib.dialect w t w') {name : String}
    (hread : readProject lib w'.folder name = .ok project)
    (hmodel : compileProject project = .ok model) :
    ∀ n ∈ w.settings.logFile?.toList, w.folder.place n ≠ w.folder.place name := by
  intro n hn hplace
  obtain ⟨hasks, hfile⟩ := Settings.enabledFile?_eq_some_iff.1 (Option.mem_toList.1 hn)
  obtain ⟨_, l, hname, -, -, -, -, hempty⟩ := hstarted.log hasks
  obtain rfl := Value.text.inj (hname.symm.trans hfile)
  rw [← hstarted.same.folder.place] at hplace
  obtain ⟨e, he⟩ := compileProject_of_empty (Folder.read_of_place hempty hplace.symm) hread
  rw [he] at hmodel
  cases hmodel

/-- The project is read as it was before the log was opened. -/
theorem readInput_of_started (hstarted : Tracer.Started lib.dialect w t w') {v : Value}
    (hread : readInput lib w'.folder v = .ok project) (hmodel : compileProject project = .ok model) :
    readInput lib w.folder v = .ok project := by
  cases v with
  | text name =>
    have hsame := hstarted.same.folder.read (apart_of_started hstarted hread hmodel)
    rwa [readInput, ← readProject_congr hsame]
  | _ => cases hread

theorem trace_of_stageTraces {traces : List (Stage × Log.Trace)} {l : Log} (hlog : t.log = some l)
    (htraces : (Stage.all.mapM fun s => ((t.trace lib.dialect s.name s.level.name).map fun trace =>
      (s, trace)).mapError Failure.log) = .ok traces) (s : Stage) :
    l.trace lib.dialect s.name s.level.name = .ok (traceOf traces s) := by
  have hall : ∀ s : Stage, ∃ trace, t.trace lib.dialect s.name s.level.name = .ok trace := by
    intro s
    obtain ⟨_, hpair⟩ := exists_of_mapM_eq_ok htraces s (by cases s <;> decide)
    obtain ⟨trace, htrace, -⟩ := map_eq_ok.1 (mapError_eq_ok.1 hpair)
    exact ⟨trace, htrace⟩
  choose trace htrace using hall
  rw [mapM_eq_ok fun s _ => by rw [htrace s]; rfl] at htraces
  obtain rfl := Except.ok.inj htraces
  have hstage := htrace s
  rw [Tracer.trace, hlog] at hstage
  rw [traceOf_stages, ← hstage]

/-- Compiling that ends well gives the model of the project, and what there is to tell is told. -/
theorem compileTraced_eq_ok (h : (compileTraced lib project t).perform w = (.ok model, w')) :
    compileProject project = .ok model ∧ ∀ l, t.log = some l →
      (∀ s : Stage, ∃ trace, l.trace lib.dialect s.name s.level.name = .ok trace) ∧
      (l.sink.isOpen = true → ∃ notices, projectNotices project = .ok notices ∧
        ∀ text, l.sink.Holds w text → l.sink.Holds w' (text ++ l.textOf lib.dialect notices)) := by
  obtain ⟨traces, htraces, h⟩ := Task.perform_ofExcept_bind_eq_ok.1 h
  obtain ⟨notices, hnotices, h⟩ := Task.perform_ofExcept_bind_eq_ok.1 h
  obtain ⟨_, w₁, htold, h⟩ := Task.perform_bind_eq_ok.1 h
  have hloop := forIn_eq_forM (tellNotice t traces) notices
  obtain ⟨hmodel, rfl⟩ := Prod.mk.inj h
  refine ⟨mapError_eq_ok.1 hmodel, fun l hlog => ?_⟩
  have htrace := trace_of_stageTraces hlog htraces
  refine ⟨fun s => ⟨_, htrace s⟩, fun hopen => ⟨notices, mapError_eq_ok.1 hnotices, ?_⟩⟩
  intro text hholds
  obtain ⟨w₂, hadded, hholds', -⟩ := tellNotices_adds hlog hopen notices htrace hholds
  rw [← hloop] at hadded
  obtain ⟨-, rfl⟩ := Prod.mk.inj (htold.symm.trans hadded)
  exact hholds'

theorem sameBut_of_compileTraced {started : Workspace}
    (hstart : Tracer.Started lib.dialect w t started)
    (hcompile : (compileTraced lib project t).perform started = (.ok model, w')) :
    w.SameBut w.settings.logFile?.toList w' :=
  hstart.same.trans ((compileTraced_changesOnly lib hstart.targets project started).sameBut hcompile)

/-- A value is kept in the file of a name, in the format of its ending, unless the name is null. -/
def Kept (lib : Library) (d : Folder) (name v : Value) : Prop :=
  name = .null ∨ ∃ n s, name = .text n ∧ formatted lib (Folder.extension n) v = .ok s ∧ d.read n = .ok s

/-- A result that was written is kept. -/
theorem kept_of_writeResult {name v : Value} {d d' : Folder} (h : writeResult lib name v d = .ok d') :
    Kept lib d' name v := by
  unfold writeResult at h
  split at h
  · exact .inl rfl
  · next n =>
    obtain ⟨s, hs, hwrite⟩ := bind_eq_ok.1 h
    exact .inr ⟨n, s, rfl, hs, Folder.read_write (mapError_eq_ok.1 hwrite)⟩
  · cases h

theorem Kept.exists_read {name v : Value} {d : Folder} (h : Kept lib d name v) {n : String}
    (hn : name.text? = some n) : ∃ s, d.read n = .ok s := by
  rcases h with rfl | ⟨_, s, rfl, -, hread⟩
  · cases hn
  · cases hn
    exact ⟨s, hread⟩

theorem Kept.of_sameBut {name v : Value} {d d' : Folder} (h : Kept lib d name v) {names : List String}
    (hsame : Folder.SameBut names d d')
    (hapart : ∀ n ∈ name.text?.toList, ∀ m ∈ names, d.place m ≠ d.place n) : Kept lib d' name v := by
  rcases h with hnull | ⟨n, s, rfl, hs, hread⟩
  · exact .inl hnull
  · refine .inr ⟨n, s, rfl, hs, ?_⟩
    rw [hsame.read (hapart n (Option.mem_toList.2 rfl)), hread]

/-- The text of the drawing that the settings ask for. -/
def drawingText (s : Settings) (m : Model) : String :=
  (m.drawing .all).text (s.value .colorScheme).label

/-- A model is drawn into a folder, as far as the settings ask for it. -/
def Drawn (s : Settings) (m : Model) (d d' : Folder) : Prop :=
  if s.asks .drawingEnabled .drawingFile then
    ∃ name, s.value .drawingFile = .text name ∧ d.write name (drawingText s m) = .ok d'
  else d' = d

theorem drawn_of_draw {u : Unit} (h : (draw model).perform w = (.ok u, w')) :
    Drawn w.settings model w.folder w'.folder := by
  simp only [draw, Task.perform_setting_bind, Settings.value_note] at h
  unfold Drawn Settings.asks
  split at h
  · next hasked =>
    rw [if_pos hasked]
    split at h
    · next name hname =>
      obtain ⟨d, hd, rfl⟩ := Task.perform_inFolder_eq_ok.1 h
      exact ⟨name, hname, mapError_eq_ok.1 hd⟩
    · cases h
  · next hasked =>
    rw [if_neg hasked]
    cases h
    rfl

theorem Drawn.congr {s s' : Settings} {d d' : Folder} (h : Drawn s' model d d')
    (hvalue : s'.value = s.value) : Drawn s model d d' := by
  unfold Drawn drawingText at h ⊢
  rwa [Settings.asks_congr hvalue, hvalue] at h

theorem Drawn.sameBut {s : Settings} {d d' : Folder} (h : Drawn s model d d') :
    Folder.SameBut s.drawingFile?.toList d d' := by
  unfold Drawn at h
  split at h
  · next hasks =>
    obtain ⟨name, hname, hwrite⟩ := h
    have hfile : s.drawingFile? = some name := Settings.enabledFile?_eq_some_iff.2 ⟨hasks, hname⟩
    rw [hfile]
    exact Folder.sameBut_write hwrite
  · rw [h]
    exact .refl _ d

theorem Drawn.read {s : Settings} {d d' : Folder} (h : Drawn s model d d')
    (hasks : s.asks .drawingEnabled .drawingFile = true) :
    ∃ name, s.value .drawingFile = .text name ∧ d'.read name = .ok (drawingText s model) := by
  rw [Drawn, if_pos hasks] at h
  obtain ⟨name, hname, hwrite⟩ := h
  exact ⟨name, hname, Folder.read_write hwrite⟩

/-- The file of the log holds what a log as the settings ask for it has to tell of a project. -/
def Told (lib : Library) (s : Settings) (project : Value) (d : Folder) : Prop :=
  ∃ (name : String) (l : Log) (notices : List Notice),
    s.value .logFile = .text name ∧ s.AsksFor lib.dialect l.filter ∧ l.format = s.value .logFormat ∧
      projectNotices project = .ok notices ∧ d.read name = .ok (l.textOf lib.dialect notices)

/-- The settings that a run notes before its tracer is started. -/
def runSettings : List Setting :=
  [.inputFile, .outputFile, .handlersFile, .scenario, .description]

/-- Write what the settings ask for of a scenario. -/
def deliver (lib : Library) (s : Settings) (tracer : Tracer) (scenario : Scenario) :
    Task Failure Scenario := do
  Task.inFolder (writeResult lib (s.value .outputFile) scenario.toValue)
  Task.inFolder (writeResult lib (s.value .handlersFile)
    (handlerGroupsValue scenario.model.handlerGroups))
  draw scenario.model
  Task.mapError .log tracer.flush
  return scenario

/-- What a run does under its tracer. -/
def work (lib : Library) (s : Settings) (tracer : Tracer) : Task Failure Scenario := do
  let project ← load lib (s.value .inputFile)
  deliver lib s tracer ⟨s.value .scenario, s.value .description, ← compileTraced lib project tracer⟩

/-- A run works under a tracer if an input is named. -/
theorem perform_run (lib : Library) (w : Workspace) :
    (run lib).perform w =
      let noted := { w with settings := w.settings.noteAll runSettings }
      if (w.settings.value .inputFile).truthy then (withTracer lib (work lib w.settings)).perform noted
      else (.error .noInput, noted) := by
  simp only [run, Task.perform_setting_bind, Settings.value_note]
  cases (w.settings.value .inputFile).truthy <;> rfl

theorem withTracer_eq_ok {α : Type} {run : Tracer → Task Failure α} {a : α} :
    (withTracer lib run).perform w = (.ok a, w') ↔
      ∃ t w₁, (Tracer.start lib.dialect).perform w = (.ok t, w₁) ∧ (run t).perform w₁ = (.ok a, w') := by
  rw [withTracer, Task.perform_bind_eq_ok]
  apply exists_congr
  intro t
  apply exists_congr
  intro w₁
  rw [Task.perform_mapError_eq_ok, Task.perform_tryCatch]
  apply and_congr_right
  intro _
  rcases (run t).perform w₁ with ⟨failure | b, w₂⟩
  · apply iff_of_false
    · intro h
      obtain ⟨_, _, -, ⟨⟩⟩ := Task.perform_bind_eq_ok.1 h
    · rintro ⟨⟩
  · exact Iff.rfl

/-- The course of a run that ends well with a scenario and leaves a folder: its tracer is started, the
project is read and compiled, and the model, the activities by handler and the drawing are written, one
after the other. -/
structure Course (lib : Library) (w : Workspace) (scenario : Scenario) (d : Folder) where
  tracer : Tracer
  started : Workspace
  project : Value
  compiled : Workspace
  exported : Folder
  grouped : Folder
  named : (w.settings.value .inputFile).truthy = true
  start : Tracer.Started lib.dialect w tracer started
  load : readInput lib started.folder (w.settings.value .inputFile) = .ok project
  compile : (compileTraced lib project tracer).perform started = (.ok scenario.model, compiled)
  name : scenario.name = w.settings.value .scenario
  description : scenario.description = w.settings.value .description
  output : writeResult lib (w.settings.value .outputFile) scenario.toValue compiled.folder = .ok exported
  handlers : writeResult lib (w.settings.value .handlersFile)
    (handlerGroupsValue scenario.model.handlerGroups) exported = .ok grouped
  drawing : Drawn w.settings scenario.model grouped d

variable {scenario : Scenario} {d : Folder}

theorem nonempty_course (h : (run lib).perform w = (.ok scenario, w')) :
    Nonempty (Course lib w scenario w'.folder) := by
  rw [perform_run] at h
  dsimp only at h
  split at h
  · next hnamed =>
    obtain ⟨tracer, started, hstart, hwork⟩ := withTracer_eq_ok.1 h
    have hstarted := (Tracer.started_of_start hstart).of_noted
    obtain ⟨project, _, hload, hwork⟩ := Task.perform_bind_eq_ok.1 hwork
    rw [perform_load] at hload
    obtain ⟨hread, rfl⟩ := Prod.mk.inj hload
    obtain ⟨model, compiled, hcompile, hwork⟩ := Task.perform_bind_eq_ok.1 hwork
    obtain ⟨_, _, houtput, hwork⟩ := Task.perform_bind_eq_ok.1 hwork
    obtain ⟨exported, hexported, rfl⟩ := Task.perform_inFolder_eq_ok.1 houtput
    obtain ⟨_, _, hhandlers, hwork⟩ := Task.perform_bind_eq_ok.1 hwork
    obtain ⟨grouped, hgrouped, rfl⟩ := Task.perform_inFolder_eq_ok.1 hhandlers
    obtain ⟨_, drawn, hdraw, hwork⟩ := Task.perform_bind_eq_ok.1 hwork
    obtain ⟨_, _, hflush, hwork⟩ := Task.perform_bind_eq_ok.1 hwork
    cases hwork
    obtain rfl := Tracer.flush_eq_ok (Task.perform_mapError_eq_ok.1 hflush)
    have hdrawn := (drawn_of_draw hdraw).congr (sameBut_of_compileTraced hstarted hcompile).settings
    exact ⟨⟨tracer, _, project, compiled, exported, grouped, hnamed, hstarted, hread, hcompile, rfl,
      rfl, hexported, hgrouped, hdrawn⟩⟩
  · cases h

/-- The names of the files that a run is for lead to files that differ. -/
def PathsApart (w : Workspace) : Prop := (w.settings.targets.map w.folder.place).Nodup

instance (w : Workspace) : Decidable (PathsApart w) := inferInstanceAs (Decidable (List.Nodup _))

theorem apart_of_nodup {α : Type} {place : String → α} {names rest : List String}
    (h : ((names ++ rest).map place).Nodup) :
    (rest.map place).Nodup ∧ ∀ n ∈ names, ∀ m ∈ rest, place m ≠ place n := by
  rw [List.map_append, List.nodup_append] at h
  refine ⟨h.2.1, fun n hn m hm => (h.2.2 _ ?_ _ ?_).symm⟩
  · exact List.mem_map_of_mem hn
  · exact List.mem_map_of_mem hm

/-- What a run leaves in the files that it is for. -/
structure Delivered (lib : Library) (s : Settings) (project : Value) (scenario : Scenario)
    (d : Folder) : Prop where
  output : Kept lib d (s.value .outputFile) scenario.toValue
  handlers : Kept lib d (s.value .handlersFile) (handlerGroupsValue scenario.model.handlerGroups)
  drawing : s.asks .drawingEnabled .drawingFile = true →
    ∃ name, s.value .drawingFile = .text name ∧ d.read name = .ok (drawingText s scenario.model)
  log : s.asks .logEnabled .logFile = true → Told lib s project d

namespace Course

variable (h : Course lib w scenario d)

include h

/-- The project is the one that was there before the run. -/
theorem read_project :
    readInput lib w.folder (w.settings.value .inputFile) = .ok h.project :=
  readInput_of_started h.start h.load (compileTraced_eq_ok h.compile).1

theorem compile_project :
    (compileProject h.project).map
      (Scenario.mk (w.settings.value .scenario) (w.settings.value .description)) =
        .ok scenario := by
  rw [(compileTraced_eq_ok h.compile).1, ← h.name, ← h.description]
  rfl

/-- Once the project is compiled, the log has told what there is to tell. -/
theorem told (hasks : w.settings.asks .logEnabled .logFile = true) :
    Told lib w.settings h.project h.compiled.folder := by
  obtain ⟨name, l, hname, hlog, hsink, hfilter, hformat, hread⟩ := h.start.log hasks
  have hopen : l.sink.isOpen = true := by
    rw [hsink]
    rfl
  obtain ⟨-, htold⟩ := (compileTraced_eq_ok h.compile).2 l hlog
  obtain ⟨notices, hnotices, htold⟩ := htold hopen
  rw [hsink] at htold
  have hholds := htold "" (.file hread)
  rw [String.empty_append] at hholds
  refine ⟨name, l, notices, hname, hfilter, hformat, hnotices, ?_⟩
  cases hholds with
  | file hread => exact hread

theorem sameBut_compiled :
    Folder.SameBut w.settings.logFile?.toList w.folder h.compiled.folder :=
  (sameBut_of_compileTraced h.start h.compile).folder

theorem sameBut_exported :
    Folder.SameBut ((w.settings.value .handlersFile).text?.toList ++ w.settings.drawingFile?.toList)
      h.exported d :=
  ((sameBut_writeResult h.handlers).mono (List.subset_append_left _ _)).trans
    (h.drawing.sameBut.mono (List.subset_append_right _ _))

/-- What is left to change when the project is compiled. -/
theorem sameBut_products : Folder.SameBut w.settings.productFiles h.compiled.folder d :=
  ((sameBut_writeResult h.output).mono (List.subset_append_left _ _)).trans
    (h.sameBut_exported.mono (List.subset_append_right _ _))

theorem sameBut_targets : Folder.SameBut w.settings.targets w.folder d :=
  (h.sameBut_compiled.mono (List.subset_append_left _ _)).trans
    (h.sameBut_products.mono (List.subset_append_right _ _))

theorem delivered (hapart : PathsApart w) : Delivered lib w.settings h.project scenario d := by
  obtain ⟨hapart, hlog⟩ := apart_of_nodup hapart
  obtain ⟨hapart, houtput⟩ := apart_of_nodup hapart
  obtain ⟨-, hhandlers⟩ := apart_of_nodup hapart
  have hcompiled := h.sameBut_compiled.place
  have hexported := (sameBut_writeResult h.output).place.trans hcompiled
  have hgrouped := (sameBut_writeResult h.handlers).place.trans hexported
  rw [← hcompiled] at hlog
  rw [← hexported] at houtput
  rw [← hgrouped] at hhandlers
  constructor
  · exact (kept_of_writeResult h.output).of_sameBut h.sameBut_exported houtput
  · exact (kept_of_writeResult h.handlers).of_sameBut h.drawing.sameBut hhandlers
  · exact h.drawing.read
  · intro hasks
    obtain ⟨name, l, notices, hname, hfilter, hformat, hnotices, hread⟩ := h.told hasks
    refine ⟨name, l, notices, hname, hfilter, hformat, hnotices, ?_⟩
    have hfile : w.settings.logFile? = some name := Settings.enabledFile?_eq_some_iff.2 ⟨hasks, hname⟩
    rw [h.sameBut_products.read (hlog name (Option.mem_toList.2 hfile)), hread]

/-- Every file that a run is for is there in the end. -/
theorem exists_read : ∀ name ∈ w.settings.targets, ∃ s, d.read name = .ok s := by
  intro name hname
  simp only [Settings.targets, Settings.productFiles, List.mem_append, Option.mem_toList] at hname
  rcases hname with hlog | houtput | hhandlers | hdrawing
  · obtain ⟨hasks, hfile⟩ := Settings.enabledFile?_eq_some_iff.1 hlog
    obtain ⟨_, l, notices, hname, -, -, -, hread⟩ := h.told hasks
    obtain rfl := Value.text.inj (hname.symm.trans hfile)
    exact h.sameBut_products.exists_read ⟨_, hread⟩
  · exact h.sameBut_exported.exists_read ((kept_of_writeResult h.output).exists_read houtput)
  · exact h.drawing.sameBut.exists_read ((kept_of_writeResult h.handlers).exists_read hhandlers)
  · obtain ⟨hasks, hfile⟩ := Settings.enabledFile?_eq_some_iff.1 hdrawing
    obtain ⟨_, hname, hread⟩ := h.drawing.read hasks
    obtain rfl := Value.text.inj (hname.symm.trans hfile)
    exact ⟨_, hread⟩

end Course

end Conversion

end FlowDiagram
