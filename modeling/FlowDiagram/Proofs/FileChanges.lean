import FlowDiagram.Proofs.Folders
import FlowDiagram.Proofs.Tracing

/-! # What tasks change

What a task changes in a workspace can be told from what its parts change, also if it fails.  The parts
of a conversion change the files that the settings name for them and no others, and as asking for a
setting changes the value of none, these are known before the first of them starts.
-/

namespace FlowDiagram

/-- Of two workspaces, the second has what the first has, but perhaps for files that some of the names
lead to and for what is on the error stream. -/
structure Workspace.SameBut (names : List String) (w w' : Workspace) : Prop where
  settings : w'.settings.value = w.settings.value
  folder : Folder.SameBut names w.folder w'.folder

namespace Workspace.SameBut

variable {names names' : List String} {w w' w'' : Workspace}

theorem refl (names : List String) (w : Workspace) : SameBut names w w := ⟨rfl, .refl names w.folder⟩

theorem trans (h : SameBut names w w') (h' : SameBut names w' w'') : SameBut names w w'' :=
  ⟨h'.settings.trans h.settings, h.folder.trans h'.folder⟩

theorem mono (h : SameBut names w w') (hnames : names ⊆ names') : SameBut names' w w' :=
  ⟨h.settings, h.folder.mono hnames⟩

end Workspace.SameBut

namespace Task

variable {ε ε' α β : Type} {names names' : List String} {w : Workspace}

/-- Whether it succeeds or fails, all that a task changes in the folder of a workspace are files that
some of the names lead to, and no setting gets another value. -/
def ChangesOnly (names : List String) (t : Task ε α) (w : Workspace) : Prop :=
  w.SameBut names (t.perform w).2

namespace ChangesOnly

theorem mono {t : Task ε α} (h : ChangesOnly names t w) (hnames : names ⊆ names') :
    ChangesOnly names' t w := Workspace.SameBut.mono h hnames

theorem sameBut {t : Task ε α} {r : Except ε α} {w' : Workspace} (h : ChangesOnly names t w)
    (ht : t.perform w = (r, w')) : w.SameBut names w' := by
  rwa [ChangesOnly, ht] at h

theorem ofExcept (names : List String) (r : Except ε α) (w : Workspace) :
    ChangesOnly names (ofExcept r) w := .refl names w

theorem mapError {t : Task ε α} (h : ChangesOnly names t w) (f : ε → ε') :
    ChangesOnly names (mapError f t) w := h

/-- A task goes on where the one before it has succeeded. -/
theorem bind {t : Task ε α} {f : α → Task ε β} (h : ChangesOnly names t w)
    (hf : ∀ a w', t.perform w = (.ok a, w') → ChangesOnly names (f a) w') :
    ChangesOnly names (t >>= f) w := by
  rw [ChangesOnly] at h ⊢
  rw [perform_bind]
  rcases ht : t.perform w with ⟨_ | a, w'⟩
  · rwa [ht] at h
  · rw [ht] at h
    exact h.trans (hf a w' ht)

theorem ofExcept_bind {r : Except ε α} {f : α → Task ε β}
    (hf : ∀ a, r = .ok a → ChangesOnly names (f a) w) :
    ChangesOnly names (Task.ofExcept r >>= f) w := by
  cases r with
  | error e => exact .ofExcept names (.error e) w
  | ok a => exact hf a rfl

/-- An error is dealt with where the task has failed. -/
theorem tryCatch {t : Task ε α} {f : ε → Task ε α} (h : ChangesOnly names t w)
    (hf : ∀ e w', t.perform w = (.error e, w') → ChangesOnly names (f e) w') :
    ChangesOnly names (tryCatch t f) w := by
  rw [ChangesOnly] at h ⊢
  rw [perform_tryCatch]
  rcases ht : t.perform w with ⟨e | _, w'⟩
  · rw [ht] at h
    exact h.trans (hf e w' ht)
  · rwa [ht] at h

/-- What is done for one item after another. -/
theorem forM {f : α → Task ε PUnit} {xs : List α} (h : ∀ x ∈ xs, ∀ w, ChangesOnly names (f x) w)
    (w : Workspace) : ChangesOnly names (ForM.forM xs f) w := by
  induction xs generalizing w with
  | nil => exact .refl names w
  | cons x xs ih =>
    rw [List.forM_cons]
    apply (h x (by simp) w).bind
    intro _ w' _
    exact ih (fun y hy => h y (by simp [hy])) w'

/-- Asking for a setting changes no value. -/
theorem setting_bind {s : Setting} {f : Value → Task ε β}
    (h : ChangesOnly names (f (w.settings.value s)) { w with settings := w.settings.note s }) :
    ChangesOnly names (setting s >>= f) w := by
  have hnoted : w.SameBut names { w with settings := w.settings.note s } :=
    ⟨funext (Settings.value_note w.settings s), .refl names w.folder⟩
  rw [ChangesOnly, perform_setting_bind]
  exact hnoted.trans h

theorem inFolder {change : Folder → Except ε Folder}
    (h : ∀ d, change w.folder = .ok d → Folder.SameBut names w.folder d) :
    ChangesOnly names (inFolder change) w := by
  rw [ChangesOnly, perform_inFolder]
  cases hchange : change w.folder with
  | error e => exact .refl names w
  | ok d => exact ⟨rfl, h d hchange⟩

end ChangesOnly

end Task

variable {names : List String}

namespace Log

/-- The names of the files that a sink writes to. -/
def Sink.targets : Sink → List String
  | errors => []
  | file name _ _ => [name]

theorem write_changesOnly (l : Log) (s : String) (w : Workspace) :
    (l.write s).ChangesOnly l.sink.targets w := by
  unfold write
  split
  · exact ⟨rfl, .refl _ w.folder⟩
  · exact .refl _ w
  · next name hsink =>
    rw [hsink]
    apply Task.ChangesOnly.inFolder
    rintro _ ⟨⟩
    exact Folder.sameBut_append w.folder name s
  · exact .refl _ w

theorem tell_changesOnly (l : Log) (t : Trace) (values : List Value) (w : Workspace) :
    (l.tell t values).ChangesOnly l.sink.targets w := by
  cases t with
  | silent => exact .refl _ w
  | headed heading => exact write_changesOnly l _ w

theorem report_changesOnly (dialect : Dialect) (l : Log) (r : Report) (w : Workspace) :
    (l.report dialect r).ChangesOnly l.sink.targets w :=
  .ofExcept_bind fun _ _ => write_changesOnly l _ w

/-- Opening a sink starts no other file anew than the one that the setting names. -/
theorem openSink_changesOnly {v : Value} (hfile : ∀ n, v = .text n → n ≠ "" → n ∈ names)
    (w : Workspace) : (openSink v).ChangesOnly names w := by
  unfold openSink
  split
  · next htruthy =>
    split
    · next name =>
      have hname : name ≠ "" := by simpa [Value.truthy] using htruthy
      apply Task.ChangesOnly.bind
      · apply Task.ChangesOnly.inFolder
        intro d hd
        apply (Folder.sameBut_write (mapError_eq_ok.1 hd)).mono
        simpa using hfile name rfl hname
      · exact fun _ w' _ => .refl names w'
    · exact .refl names w
  · exact .refl names w

theorem openWith_changesOnly {w : Workspace}
    (hfile : ∀ n, w.settings.value .logFile = .text n → n ≠ "" → n ∈ names)
    (includes excludes : List Pattern) : (openWith includes excludes).ChangesOnly names w := by
  unfold openWith
  apply Task.ChangesOnly.setting_bind
  apply Task.ChangesOnly.setting_bind
  split
  · exact .refl names _
  · apply Task.ChangesOnly.setting_bind
    apply (openSink_changesOnly hfile _).bind
    exact fun _ w' _ => .refl names w'

end Log

namespace Settings

/-- The settings ask for a file: both its name and the setting that enables it count as true. -/
def asks (t : Settings) (enabled file : Setting) : Bool :=
  (t.value enabled).truthy && (t.value file).truthy

/-- The name of a file that the settings ask for. -/
def enabledFile? (t : Settings) (enabled file : Setting) : Option String :=
  if t.asks enabled file then (t.value file).text? else none

/-- The file of the log that the settings ask for. -/
def logFile? (t : Settings) : Option String := t.enabledFile? .logEnabled .logFile

/-- The file of the drawing that the settings ask for. -/
def drawingFile? (t : Settings) : Option String := t.enabledFile? .drawingEnabled .drawingFile

variable {t t' : Settings}

theorem asks_congr (h : t'.value = t.value) : t'.asks = t.asks := by
  funext enabled file
  simp only [asks, h]

theorem enabledFile?_congr (h : t'.value = t.value) : t'.enabledFile? = t.enabledFile? := by
  funext enabled file
  rw [enabledFile?, enabledFile?, asks_congr h, h]

theorem logFile?_congr (h : t'.value = t.value) : t'.logFile? = t.logFile? := by
  rw [logFile?, logFile?, enabledFile?_congr h]

theorem drawingFile?_congr (h : t'.value = t.value) : t'.drawingFile? = t.drawingFile? := by
  rw [drawingFile?, drawingFile?, enabledFile?_congr h]

theorem enabledFile?_eq_some_iff {enabled file : Setting} {name : String} :
    t.enabledFile? enabled file = some name ↔
      t.asks enabled file = true ∧ t.value file = .text name := by
  unfold enabledFile?
  split
  · next h =>
    rw [h]
    cases t.value file <;> simp [Value.text?]
  · next h => simp [h]

theorem asks_text {enabled file : Setting} {name : String}
    (henabled : (t.value enabled).truthy = true) (hfile : t.value file = .text name)
    (hname : name ≠ "") : t.asks enabled file = true := by
  have htruthy : (t.value file).truthy = true := by simpa [hfile, Value.truthy] using hname
  rw [asks, henabled, htruthy]
  rfl

end Settings

namespace Tracer

variable {dialect : Log.Dialect} {t : Tracer} {w w' : Workspace}

theorem start_changesOnly (dialect : Log.Dialect) (w : Workspace) :
    (start dialect).ChangesOnly w.settings.logFile?.toList w := by
  unfold start
  apply Task.ChangesOnly.setting_bind
  split
  · next henabled =>
    apply Task.ChangesOnly.setting_bind
    apply Task.ChangesOnly.setting_bind
    apply Task.ChangesOnly.ofExcept_bind
    intro includes _
    apply Task.ChangesOnly.ofExcept_bind
    intro excludes _
    apply Task.ChangesOnly.bind
    · apply Log.openWith_changesOnly
      intro n hn hname
      simp only [Settings.value_note] at hn
      rw [Option.mem_toList]
      exact Settings.enabledFile?_eq_some_iff.2 ⟨Settings.asks_text henabled hn hname, hn⟩
    · exact fun _ w' _ => .refl _ w'
  · exact .refl _ _

/-- The log of a tracer that was started writes to no other file than the settings ask for. -/
theorem targets_of_start (hstart : (start dialect).perform w = (.ok t, w')) :
    ∀ l ∈ t.log, l.sink.targets ⊆ w.settings.logFile?.toList := by
  intro l hlog
  obtain ⟨henabled, htruthy, _, _, -, -, hopen⟩ := (start_eq_ok_iff hlog).1 hstart
  obtain ⟨_, d, -, hopens, -⟩ := Log.openWith_eq_ok_iff.1 hopen
  rw [henabled] at htruthy
  rw [Settings.value_noteAll] at hopens
  generalize hv : w.settings.value .logFile = v at hopens
  generalize l.sink = sink at hopens
  cases hopens with
  | errors => exact List.nil_subset _
  | file hname =>
    rw [Log.Sink.targets, List.cons_subset, Option.mem_toList]
    exact ⟨Settings.enabledFile?_eq_some_iff.2 ⟨Settings.asks_text htruthy hv hname, hv⟩,
      List.nil_subset _⟩

theorem tell_changesOnly (h : ∀ l ∈ t.log, l.sink.targets ⊆ names) (trace : Log.Trace)
    (values : List Value) (w : Workspace) : (t.tell trace values).ChangesOnly names w := by
  rw [tell]
  cases hlog : t.log with
  | none => exact .refl names w
  | some l => exact (l.tell_changesOnly trace values w).mono (h l hlog)

theorem report_changesOnly (dialect : Log.Dialect) (h : ∀ l ∈ t.log, l.sink.targets ⊆ names)
    (r : Log.Report) (w : Workspace) : (t.report dialect r).ChangesOnly names w := by
  rw [report]
  cases hlog : t.log with
  | none => exact .refl names w
  | some l => exact (l.report_changesOnly dialect r w).mono (h l hlog)

theorem flush_changesOnly (t : Tracer) (names : List String) (w : Workspace) :
    t.flush.ChangesOnly names w := by
  rw [flush]
  cases t.log with
  | none => exact .refl names w
  | some l =>
    rw [Option.elim_some, Log.flush]
    split <;> exact .refl names w

end Tracer

namespace Conversion

variable {lib : Library} {t : Tracer}

/-- Compiling under a tracer changes at most the file of its log. -/
theorem compileTraced_changesOnly (lib : Library) (h : ∀ l ∈ t.log, l.sink.targets ⊆ names)
    (project : Value) (w : Workspace) : (compileTraced lib project t).ChangesOnly names w := by
  rw [compileTraced_eq]
  apply Task.ChangesOnly.ofExcept_bind
  intro traces _
  rw [tells_compileProject (tellNotice t traces)]
  apply Task.ChangesOnly.bind
  · apply Task.ChangesOnly.bind
    · apply Task.ChangesOnly.forM
      intro n _ w'
      exact (t.tell_changesOnly h _ _ w').mapError _
    · exact fun _ w' _ => .refl names w'
  · exact fun _ w' _ => .refl names w'

theorem sameBut_writeResult {name v : Value} {d d' : Folder}
    (h : writeResult lib name v d = .ok d') : Folder.SameBut name.text?.toList d d' := by
  unfold writeResult at h
  split at h
  · cases h
    exact .refl _ d
  · next name =>
    obtain ⟨s, -, hwrite⟩ := bind_eq_ok.1 h
    exact Folder.sameBut_write (mapError_eq_ok.1 hwrite)
  · cases h

theorem writeResult_changesOnly (lib : Library) (name v : Value) (w : Workspace) :
    (Task.inFolder (writeResult lib name v)).ChangesOnly name.text?.toList w :=
  .inFolder fun _ => sameBut_writeResult

theorem draw_changesOnly (m : Model) (w : Workspace) :
    (draw m).ChangesOnly w.settings.drawingFile?.toList w := by
  unfold draw
  apply Task.ChangesOnly.setting_bind
  apply Task.ChangesOnly.setting_bind
  apply Task.ChangesOnly.setting_bind
  split
  · next hasked =>
    simp only [Settings.value_note] at hasked ⊢
    split
    · next name hname =>
      have hfile : w.settings.drawingFile? = some name :=
        Settings.enabledFile?_eq_some_iff.2 ⟨hasked, hname⟩
      rw [hfile]
      apply Task.ChangesOnly.inFolder
      intro d hd
      exact Folder.sameBut_write (mapError_eq_ok.1 hd)
    · exact .refl _ _
  · exact .refl _ _

/-- Under a tracer, only its log's file is changed besides what the work changes. -/
theorem withTracer_changesOnly {α : Type} {run : Tracer → Task Failure α} {w : Workspace}
    (hlog : w.settings.logFile?.toList ⊆ names)
    (hrun : ∀ t w', (Tracer.start lib.dialect).perform w = (.ok t, w') → (run t).ChangesOnly names w') :
    (withTracer lib run).ChangesOnly names w := by
  apply Task.ChangesOnly.bind (((Tracer.start_changesOnly lib.dialect w).mono hlog).mapError _)
  intro t w' hstarted
  have hstart := Task.perform_mapError_eq_ok.1 hstarted
  apply (hrun t w' hstart).tryCatch
  intro failure w'' _
  apply Task.ChangesOnly.bind
  · apply Task.ChangesOnly.mapError
    apply t.report_changesOnly lib.dialect
    exact fun l hl => List.Subset.trans (Tracer.targets_of_start hstart l hl) hlog
  · exact fun _ w' _ => .refl names w'

end Conversion

end FlowDiagram
