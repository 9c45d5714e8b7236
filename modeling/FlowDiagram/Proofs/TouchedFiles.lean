import FlowDiagram.Proofs.ReadyRuns

/-! # What a run touches

A run that is refused, because its input is no project with a graph or its output has no format, fails and
changes no file but that of its log.  A run that nothing stands in the way of gives the scenario of the
project that was there before it, leaves in each file that the settings ask for what that is for, and
every other file as it was.
-/

namespace FlowDiagram.Conversion

variable {lib : Library} {w w' : Workspace} {t : Tracer} {project : Value} {model : Model}

/-- Why a run is refused: no input is named, it cannot be read as a project, the project has no graph,
or the output is to have a format that there is not. -/
inductive Refused (lib : Library) (w : Workspace) : Prop where
  | noInput : (w.settings.value .inputFile).truthy = false → Refused lib w
  | unreadable {failure : Failure} :
      readInput lib w.folder (w.settings.value .inputFile) = .error failure → Refused lib w
  | noGraph {project : Value} {e : DiagramError} :
      readInput lib w.folder (w.settings.value .inputFile) = .ok project →
        compileProject project = .error e → Refused lib w
  | noFormat {name : String} :
      w.settings.value .outputFile = .text name →
        Folder.extension name ∉ resultExtensions → Refused lib w

theorem not_refused {v : Value} {d d' : Folder}
    (hnamed : (w.settings.value .inputFile).truthy = true)
    (hread : readInput lib w.folder (w.settings.value .inputFile) = .ok project)
    (hmodel : compileProject project = .ok model)
    (houtput : writeResult lib (w.settings.value .outputFile) v d = .ok d') : ¬ Refused lib w := by
  intro hrefused
  cases hrefused with
  | noInput hunnamed =>
    rw [hnamed] at hunnamed
    cases hunnamed
  | unreadable hunreadable =>
    rw [hread] at hunreadable
    cases hunreadable
  | noGraph hread' herror =>
    obtain rfl := Except.ok.inj (hread.symm.trans hread')
    rw [hmodel] at herror
    cases herror
  | noFormat hname hextension =>
    rw [hname, writeResult, formatted_eq_error lib hextension] at houtput
    cases houtput

theorem run_of_refused (hrefused : Refused lib w) :
    ∃ failure, ((run lib).perform w).1 = .error failure := by
  rcases hrun : (run lib).perform w with ⟨failure | scenario, w'⟩
  · exact ⟨failure, rfl⟩
  · obtain ⟨h⟩ := nonempty_course hrun
    have hmodel := (compileTraced_eq_ok h.compile).1
    exact absurd hrefused (not_refused h.named h.read_project hmodel h.output)

theorem deliver_changesOnly {s : Settings} {scenario : Scenario} {names : List String}
    (hvalue : w.settings.value = s.value)
    (hnames : ∀ d, writeResult lib (s.value .outputFile) scenario.toValue w.folder = .ok d →
      s.productFiles ⊆ names) : (deliver lib s t scenario).ChangesOnly names w := by
  apply Task.ChangesOnly.bind
  · apply Task.ChangesOnly.inFolder
    intro d hd
    apply (sameBut_writeResult hd).mono
    exact List.Subset.trans (List.subset_append_left _ _) (hnames d hd)
  intro _ _ houtput
  obtain ⟨exported, hexported, rfl⟩ := Task.perform_inFolder_eq_ok.1 houtput
  obtain ⟨-, hrest⟩ := List.append_subset.1 (hnames exported hexported)
  obtain ⟨hhandlers, hdrawing⟩ := List.append_subset.1 hrest
  apply ((writeResult_changesOnly lib _ _ _).mono hhandlers).bind
  intro _ _ hgrouped
  obtain ⟨grouped, -, rfl⟩ := Task.perform_inFolder_eq_ok.1 hgrouped
  rw [← Settings.drawingFile?_congr hvalue] at hdrawing
  have hdraw := draw_changesOnly scenario.model { w with folder := grouped }
  apply (hdraw.mono hdrawing).bind
  intro _ drawn _
  apply ((t.flush_changesOnly names drawn).mapError _).bind
  exact fun _ w' _ => .refl names w'

/-- The work changes the file of the log, and unless the run is refused, the others that it is for. -/
theorem work_changesOnly {names : List String} (hstart : Tracer.Started lib.dialect w t w')
    (hnamed : (w.settings.value .inputFile).truthy = true)
    (hlog : w.settings.logFile?.toList ⊆ names)
    (htargets : ¬ Refused lib w → w.settings.targets ⊆ names) :
    (work lib w.settings t).ChangesOnly names w' := by
  have hload : (load lib (w.settings.value .inputFile)).ChangesOnly names w' := by
    rw [Task.ChangesOnly, perform_load]
    exact .refl names w'
  apply hload.bind
  intro project _ hloaded
  rw [perform_load] at hloaded
  obtain ⟨hread, rfl⟩ := Prod.mk.inj hloaded
  apply ((compileTraced_changesOnly lib hstart.targets project w').mono hlog).bind
  intro model compiled hcompile
  apply deliver_changesOnly (sameBut_of_compileTraced hstart hcompile).settings
  intro d houtput
  have hmodel := (compileTraced_eq_ok hcompile).1
  have hproject := readInput_of_started hstart hread hmodel
  have haccepted := htargets (not_refused hnamed hproject hmodel houtput)
  exact (List.append_subset.1 haccepted).2

theorem run_changesOnly {names : List String} (hlog : w.settings.logFile?.toList ⊆ names)
    (htargets : ¬ Refused lib w → w.settings.targets ⊆ names) : (run lib).ChangesOnly names w := by
  have hvalue := funext (Settings.value_noteAll w.settings runSettings)
  have hnoted : w.SameBut names { w with settings := w.settings.noteAll runSettings } :=
    ⟨hvalue, .refl names w.folder⟩
  rw [Task.ChangesOnly, perform_run]
  dsimp only
  split
  · next hnamed =>
    apply hnoted.trans
    apply withTracer_changesOnly
    · rwa [Settings.logFile?_congr hvalue]
    · intro t w' hstart
      exact work_changesOnly (Tracer.started_of_start hstart).of_noted hnamed hlog htargets
  · exact hnoted

/-- A run touches only what it should.  If it is refused it fails, and no file but that of its log has
changed.  It ends well if and only if nothing stands in its way; then it gives the scenario of the
project as that was before the run, which no other setting has a part in; every file that it is for is
there, all others are as they were, and if those that it is for differ, each holds what it is for. -/
theorem run_touches_only (lib : Library) (w : Workspace) :
    (Refused lib w → (∃ failure, ((run lib).perform w).1 = .error failure) ∧
      Folder.SameBut w.settings.logFile?.toList w.folder ((run lib).perform w).2.folder) ∧
    ((∃ scenario w', (run lib).perform w = (.ok scenario, w')) ↔ Ready lib w) ∧
    ∀ scenario w', (run lib).perform w = (.ok scenario, w') →
      (∃ project, readInput lib w.folder (w.settings.value .inputFile) = .ok project ∧
        (compileProject project).map
          (Scenario.mk (w.settings.value .scenario) (w.settings.value .description)) =
            .ok scenario ∧
        (PathsApart w → Delivered lib w.settings project scenario w'.folder)) ∧
      Folder.SameBut w.settings.targets w.folder w'.folder ∧
      ∀ name ∈ w.settings.targets, ∃ s, w'.folder.read name = .ok s := by
  refine ⟨?refused, exists_run_iff_ready, ?ended⟩
  case refused =>
    intro hrefused
    have hchanges := run_changesOnly (List.Subset.refl _) fun haccepted => absurd hrefused haccepted
    exact ⟨run_of_refused hrefused, hchanges.folder⟩
  case ended =>
    intro scenario w' hrun
    obtain ⟨h⟩ := nonempty_course hrun
    exact ⟨⟨h.project, h.read_project, h.compile_project, h.delivered⟩, h.sameBut_targets,
      h.exists_read⟩

/-- A workspace with a graph of one node, which has no id, and with settings that ask for all files. -/
def shop : Workspace :=
  ⟨((loud.settings.set .inputFile (.text "shop.yaml")).set .handlersFile (.text "handlers.yml")).set
    .drawingEnabled (.bool true), .ofFiles [("shop.yaml", "nodes: [null]\nedges: []\n")], ""⟩

/-- The same workspace, with an output that has no format. -/
def shopAsText : Workspace :=
  { shop with settings := shop.settings.set .outputFile (.text "model.txt") }

theorem shop_touches_only :
    Ready .basic shop ∧ (∃ scenario w', (run .basic).perform shop = (.ok scenario, w') ∧
      PathsApart shop ∧ ∃ project, Delivered .basic shop.settings project scenario w'.folder) ∧
    Refused .basic shopAsText ∧ (∃ failure, ((run .basic).perform shopAsText).1 = .error failure) ∧
      Folder.SameBut ["compile.log"] shopAsText.folder ((run .basic).perform shopAsText).2.folder := by
  have hrefused : Refused .basic shopAsText :=
    .noFormat (Settings.value_set _ .outputFile .outputFile (.text "model.txt")) (by decide +kernel)
  have hok : ((run .basic).perform shop).1.isOk = true := by decide +kernel
  have hapart : PathsApart shop := by decide +kernel
  obtain ⟨-, hready, hended⟩ := run_touches_only .basic shop
  rcases hrun : (run .basic).perform shop with ⟨failure | scenario, w'⟩
  · rw [hrun] at hok
    cases hok
  · obtain ⟨⟨project, -, -, hdelivered⟩, -⟩ := hended scenario w' hrun
    exact ⟨hready.1 ⟨scenario, w', hrun⟩, ⟨scenario, w', rfl, hapart, project, hdelivered hapart⟩,
      hrefused, (run_touches_only .basic shopAsText).1 hrefused⟩

example : ((run .basic).perform shop).2.folder.files.keys =
    ["shop.yaml", "compile.log", "model.json", "handlers.yml", "model.dot"] := by
  decide +kernel

end FlowDiagram.Conversion
