import FlowDiagram.Proofs.RunCourse

/-! # When a run ends well

A run ends well if and only if nothing stands in its way: the input is a project with a graph, the log is
asked for in a way that can be followed, and each file that the run is for can be written.
-/

namespace FlowDiagram

namespace Tracer

variable {dialect : Log.Dialect} {t : Tracer} {l : Log} {w : Workspace} {d : Folder}

theorem exists_start_of_openedAs (henabled : (w.settings.value .logEnabled).truthy = true)
    (h : OpenedAs dialect w.settings w.folder l d) :
    ∃ w', (start dialect).perform w = (.ok ⟨w.settings.value .logEnabled, some l⟩, w') := by
  refine ⟨_, (start_eq_ok_iff rfl).2 ⟨rfl, henabled, _, _, h.filter.includes, h.filter.excludes,
    Log.openWith_eq_ok_iff.2 ⟨l.filter.level, d, ?_, ?_, rfl, ?_, rfl⟩⟩⟩
  · rw [Settings.value_noteAll]
    exact h.filter.level
  · rw [Settings.value_noteAll]
    exact h.sink
  · rw [Settings.value_noteAll]
    exact h.format

theorem exists_start_of_disabled (hdisabled : (w.settings.value .logEnabled).truthy = false) :
    ∃ w', (start dialect).perform w = (.ok ⟨w.settings.value .logEnabled, none⟩, w') := by
  simp only [start, Task.perform_setting_bind, hdisabled]
  exact ⟨_, rfl⟩

theorem OpenedAs.congr {s s' : Settings} {d d' : Folder} (h : OpenedAs dialect s' d l d')
    (hvalue : s'.value = s.value) : OpenedAs dialect s d l d' := by
  obtain ⟨hfilter, hformat, hsink⟩ := h
  rw [hvalue] at hformat hsink
  exact ⟨hfilter.congr hvalue, hformat, hsink⟩

theorem flush_gives (hopen : ∀ l ∈ t.log, l.sink.isOpen = true) : t.flush.Gives (.ok ()) := by
  rw [flush]
  cases hlog : t.log with
  | none => exact fun _ => rfl
  | some l =>
    have hisOpen := hopen l hlog
    rw [Option.elim_some, Log.flush]
    split
    · next hsink =>
      rw [hsink] at hisOpen
      cases hisOpen
    · exact fun _ => rfl

end Tracer

namespace Conversion

variable {lib : Library} {w w' : Workspace} {t : Tracer} {project : Value} {model : Model}
    {d d' : Folder}

/-- The endings of the names of files that results can be written to. -/
def resultExtensions : List String := [".json", ".yaml", ".yml", ".py"]

theorem formatted_eq_error (lib : Library) {extension : String} (h : extension ∉ resultExtensions)
    (v : Value) :
    formatted lib extension v = .error (.badExtension extension) := by
  simp only [resultExtensions, List.mem_cons, List.not_mem_nil, or_false, not_or] at h
  simp [formatted, h]

theorem exists_formatted (lib : Library) {extension : String} (h : extension ∈ resultExtensions)
    (v : Value) :
    ∃ s, formatted lib extension v = .ok s := by
  simp only [resultExtensions, List.mem_cons, List.not_mem_nil, or_false] at h
  rcases h with rfl | rfl | rfl | rfl <;> exact ⟨_, rfl⟩

/-- The name of a result asks for no file, or for one that can be written in the format of its ending. -/
def Writable (d : Folder) (name : Value) : Prop :=
  name = .null ∨ ∃ n p, name = .text n ∧ Folder.extension n ∈ resultExtensions ∧ d.place n = .ok p

theorem writable_iff (lib : Library) {name : Value} (v : Value) :
    Writable d name ↔ ∃ d', writeResult lib name v d = .ok d' := by
  constructor
  · rintro (rfl | ⟨n, p, rfl, hextension, hplace⟩)
    · exact ⟨d, rfl⟩
    · obtain ⟨s, hs⟩ := exists_formatted lib hextension v
      obtain ⟨d', hwrite⟩ := Folder.exists_write hplace s
      exact ⟨d', bind_eq_ok.2 ⟨s, hs, mapError_eq_ok.2 hwrite⟩⟩
  · rintro ⟨d', h⟩
    unfold writeResult at h
    split at h
    · exact .inl rfl
    · next n =>
      obtain ⟨s, hs, hwrite⟩ := bind_eq_ok.1 h
      obtain ⟨p, hplace, -⟩ := Folder.write_eq_ok.1 (mapError_eq_ok.1 hwrite)
      refine .inr ⟨n, p, rfl, ?_, hplace⟩
      by_contra hextension
      rw [formatted_eq_error lib hextension] at hs
      cases hs
    · cases h

theorem Writable.congr {name : Value} (h : Writable d' name) (hplace : d'.place = d.place) :
    Writable d name := by
  rwa [Writable, hplace] at h

/-- Nothing stands in the way of a run. -/
structure Ready (lib : Library) (w : Workspace) : Prop where
  input : ∃ name project model, w.settings.value .inputFile = .text name ∧ name ≠ "" ∧
    readProject lib w.folder name = .ok project ∧ compileProject project = .ok model ∧
      ∀ n ∈ w.settings.logFile?.toList, w.folder.place n ≠ w.folder.place name
  log : (w.settings.value .logEnabled).truthy = true →
    ∃ l d, Tracer.OpenedAs lib.dialect w.settings w.folder l d ∧
      ∀ s : Stage, ∃ trace, l.trace lib.dialect s.name s.level.name = .ok trace
  output : Writable w.folder (w.settings.value .outputFile)
  handlers : Writable w.folder (w.settings.value .handlersFile)
  drawing : w.settings.asks .drawingEnabled .drawingFile = true →
    ∃ name p, w.settings.value .drawingFile = .text name ∧ w.folder.place name = .ok p

/-- What took its course had nothing in its way. -/
theorem Course.ready {scenario : Scenario} (h : Course lib w scenario d) : Ready lib w where
  input := by
    have hnamed := h.named
    have hload := h.load
    have hmodel := (compileTraced_eq_ok h.compile).1
    have hread := h.read_project
    generalize w.settings.value .inputFile = v at hnamed hload hread
    cases v with
    | text name =>
      have hname : name ≠ "" := by simpa [Value.truthy] using hnamed
      exact ⟨name, h.project, scenario.model, rfl, hname, hread, hmodel,
        apart_of_started h.start hload hmodel⟩
    | _ => cases hload
  log := by
    intro henabled
    obtain ⟨l, hlog, hopened⟩ := h.start.enabled henabled
    exact ⟨l, _, hopened, ((compileTraced_eq_ok h.compile).2 l hlog).1⟩
  output := ((writable_iff lib _).2 ⟨_, h.output⟩).congr h.sameBut_compiled.place
  handlers := by
    have hexported := (sameBut_writeResult h.output).place.trans h.sameBut_compiled.place
    exact ((writable_iff lib _).2 ⟨_, h.handlers⟩).congr hexported
  drawing := by
    intro hasks
    have hdrawn := h.drawing
    rw [Drawn, if_pos hasks] at hdrawn
    obtain ⟨name, hname, hwrite⟩ := hdrawn
    obtain ⟨p, hplace, -⟩ := Folder.write_eq_ok.1 hwrite
    have hexported := (sameBut_writeResult h.output).place.trans h.sameBut_compiled.place
    have hgrouped := (sameBut_writeResult h.handlers).place.trans hexported
    exact ⟨name, p, hname, by rw [← hgrouped, hplace]⟩

section Ready

theorem exists_draw (w : Workspace) (m : Model)
    (hdrawing : w.settings.asks .drawingEnabled .drawingFile = true →
      ∃ name p, w.settings.value .drawingFile = .text name ∧ w.folder.place name = .ok p) :
    ∃ w', (draw m).perform w = (.ok (), w') := by
  simp only [draw, Task.perform_setting_bind, Settings.value_note]
  split
  · next hasks =>
    obtain ⟨name, p, hname, hplace⟩ := hdrawing hasks
    obtain ⟨d, hwrite⟩ := Folder.exists_write hplace (drawingText w.settings m)
    rw [hname]
    exact ⟨_, Task.perform_inFolder_of_ok (mapError_eq_ok.2 hwrite)⟩
  · exact ⟨_, rfl⟩

/-- A scenario is delivered where the files for it can be written. -/
theorem exists_deliver (lib : Library) {s : Settings} (hvalue : w.settings.value = s.value)
    (hopen : ∀ l ∈ t.log, l.sink.isOpen = true)
    (houtput : Writable w.folder (s.value .outputFile))
    (hhandlers : Writable w.folder (s.value .handlersFile))
    (hdrawing : s.asks .drawingEnabled .drawingFile = true →
      ∃ name p, s.value .drawingFile = .text name ∧ w.folder.place name = .ok p)
    (scenario : Scenario) : ∃ w', (deliver lib s t scenario).perform w = (.ok scenario, w') := by
  obtain ⟨exported, hexported⟩ := (writable_iff lib scenario.toValue).1 houtput
  have hplace := (sameBut_writeResult hexported).place
  obtain ⟨grouped, hgrouped⟩ :=
    (writable_iff lib (handlerGroupsValue scenario.model.handlerGroups)).1 (hhandlers.congr hplace.symm)
  have hplace' := (sameBut_writeResult hgrouped).place.trans hplace
  rw [← hplace', ← hvalue, ← Settings.asks_congr hvalue] at hdrawing
  obtain ⟨drawn, hdraw⟩ :=
    exists_draw { w with folder := grouped } scenario.model hdrawing
  obtain ⟨w', hflush⟩ := ((t.flush_gives hopen).mapError Failure.log).exists_perform drawn
  refine ⟨w', ?_⟩
  rw [deliver, Task.perform_bind_of_ok (Task.perform_inFolder_of_ok hexported),
    Task.perform_bind_of_ok (Task.perform_inFolder_of_ok hgrouped), Task.perform_bind_of_ok hdraw,
    Task.perform_bind_of_ok hflush]
  rfl

/-- The tracer of a run is started, with a trace for each stage. -/
theorem Ready.exists_start (h : Ready lib w) (ss : List Setting) :
    ∃ t w', (Tracer.start lib.dialect).perform { w with settings := w.settings.noteAll ss } =
        (.ok t, w') ∧
      ∀ s : Stage, ∃ trace, t.trace lib.dialect s.name s.level.name = .ok trace := by
  have hnoted : (w.settings.noteAll ss).value = w.settings.value :=
    funext (Settings.value_noteAll w.settings ss)
  cases henabled : (w.settings.value .logEnabled).truthy with
  | true =>
    obtain ⟨l, d, hopened, htraces⟩ := h.log henabled
    have hopened : Tracer.OpenedAs lib.dialect (w.settings.noteAll ss) w.folder l d :=
      hopened.congr hnoted.symm
    rw [← hnoted] at henabled
    obtain ⟨w', hstart⟩ := Tracer.exists_start_of_openedAs
      (w := { w with settings := w.settings.noteAll ss }) henabled hopened
    exact ⟨_, w', hstart, htraces⟩
  | false =>
    rw [← hnoted] at henabled
    obtain ⟨w', hstart⟩ := Tracer.exists_start_of_disabled
      (w := { w with settings := w.settings.noteAll ss }) henabled
    exact ⟨_, w', hstart, fun _ => ⟨.silent, rfl⟩⟩

theorem Ready.exists_run (h : Ready lib w) :
    ∃ scenario w', (run lib).perform w = (.ok scenario, w') := by
  obtain ⟨name, project, model, hname, hnonempty, hread, hmodel, hapart⟩ := h.input
  obtain ⟨t, started, hstart, htraces⟩ := h.exists_start runSettings
  have hopen := Tracer.start_eq_ok hstart
  have hstarted := (Tracer.started_of_start hstart).of_noted
  have hload : (load lib (w.settings.value .inputFile)).perform started = (.ok project, started) := by
    rw [perform_load, hname, readInput, readProject_congr (hstarted.same.folder.read hapart), hread]
  have hgives : (compileTraced lib project t).Gives (.ok model) := by
    have htelling := compileTelling_gives_of_traces hopen htraces project
    rw [← compileTraced_eq, hmodel] at htelling
    exact htelling
  obtain ⟨compiled, hcompile⟩ := hgives.exists_perform started
  have hcompiled := sameBut_of_compileTraced hstarted hcompile
  have hplace := hcompiled.folder.place
  have hdrawing := h.drawing
  rw [← hplace] at hdrawing
  obtain ⟨w', hdeliver⟩ := exists_deliver lib hcompiled.settings hopen (h.output.congr hplace.symm)
    (h.handlers.congr hplace.symm) hdrawing
    ⟨w.settings.value .scenario, w.settings.value .description, model⟩
  have hnamed : (w.settings.value .inputFile).truthy = true := by
    simpa [hname, Value.truthy] using hnonempty
  refine ⟨⟨w.settings.value .scenario, w.settings.value .description, model⟩, w', ?_⟩
  rw [perform_run]
  dsimp only
  rw [if_pos hnamed, withTracer_eq_ok]
  refine ⟨t, started, hstart, ?_⟩
  rw [work, Task.perform_bind_of_ok hload, Task.perform_bind_of_ok hcompile, hdeliver]

/-- A run ends well if and only if nothing stands in its way. -/
theorem exists_run_iff_ready :
    (∃ scenario w', (run lib).perform w = (.ok scenario, w')) ↔ Ready lib w := by
  constructor
  · rintro ⟨scenario, w', hrun⟩
    obtain ⟨h⟩ := nonempty_course hrun
    exact h.ready
  · exact Ready.exists_run

end Ready

end Conversion

end FlowDiagram
