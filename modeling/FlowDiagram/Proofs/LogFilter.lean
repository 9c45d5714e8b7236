import FlowDiagram.Proofs.Tracing

/-! # Filtering a log

Each stage of compiling asks for its trace once and tells whatever it skips under it, so what a log
admits is decided before anything is told.  What is logged is what a log of everything would have, in
that order, less what the filter of the log does not keep; and a filter that is stricter keeps less.
-/

namespace FlowDiagram

namespace Pattern

theorem subset_ends_star (text : List Char) (p : Pattern) (places : List Nat) :
    places ⊆ ends text (.star p) places := by
  rw [ends]
  refine List.foldlRecOn (motive := fun found => places ⊆ found) _ _ (List.Subset.refl places) ?_
  exact fun found hfound _ _ => List.Subset.trans hfound (List.subset_append_left found _)

theorem matchesStart_star (p : Pattern) (text : String) :
    (seq (star p) empty).matchesStart text = true := by
  have hstart : 0 ∈ ends text.toList (.seq (.star p) .empty) [0] :=
    subset_ends_star text.toList p [0] (List.mem_singleton.2 rfl)
  rw [matchesStart, Bool.not_eq_true', List.isEmpty_eq_false_iff]
  exact List.ne_nil_of_mem hstart

end Pattern

namespace Log

/-- What is logged: a message, with the level and the scope that it is told under. -/
structure Entry where
  level : Level
  scope : String
  message : String
deriving DecidableEq, Repr

/-- A filter keeps what its level reaches, if the scope starts with some included pattern and with no
excluded one. -/
def Filter.Keeps (f : Filter) (e : Entry) : Prop :=
  e.level.rank ≤ f.level.rank ∧ (∃ p ∈ f.includes, p e.scope = true) ∧
    ∀ p ∈ f.excludes, p e.scope = false

instance (f : Filter) (e : Entry) : Decidable (f.Keeps e) :=
  inferInstanceAs (Decidable (_ ∧ _ ∧ _))

theorem Filter.admits_iff (f : Filter) (e : Entry) :
    f.admits e.scope e.level = true ↔ f.Keeps e := by
  simp [admits, admitsLevel, admitsScope, Keeps]

/-- A filter keeps less than another. -/
structure Filter.Stricter (f g : Filter) : Prop where
  level : f.level.rank ≤ g.level.rank
  includes : f.includes ⊆ g.includes
  excludes : g.excludes ⊆ f.excludes

theorem Filter.Stricter.keeps {f g : Filter} (h : f.Stricter g) {e : Entry} (hkeeps : f.Keeps e) :
    g.Keeps e := by
  obtain ⟨hlevel, ⟨p, hp, hmatches⟩, hexcludes⟩ := hkeeps
  refine ⟨Nat.le_trans hlevel h.level, ⟨p, h.includes hp, hmatches⟩, fun q hq => ?_⟩
  exact hexcludes q (h.excludes hq)

/-- The pattern that is asked for if nothing is to be left out. -/
def anything : Value := .text ".*"

/-- The pattern of any characters matches every scope at the start. -/
def Dialect.KnowsAnything (dialect : Dialect) : Prop :=
  ∃ p, dialect.pattern anything = .ok p ∧ ∀ scope, p scope = true

theorem Dialect.basic_knowsAnything : basic.KnowsAnything :=
  ⟨_, rfl, Pattern.matchesStart_star (.char .ofLine)⟩

/-- The filter that a log has if it is asked for everything. -/
def Filter.everything (p : Pattern) : Filter := ⟨.debug, [p], []⟩

theorem Filter.everything_keeps {p : Pattern} (h : ∀ scope, p scope = true) (e : Entry) :
    (everything p).Keeps e := by
  refine ⟨?_, ⟨p, List.mem_singleton.2 rfl, h e.scope⟩, ?_⟩
  · change e.level.rank ≤ Level.debug.rank
    cases e.level <;> decide
  · rintro _ ⟨⟩

variable {dialect : Dialect}

/-- The line of an entry. -/
def line (dialect : Dialect) (l : Log) (e : Entry) : String :=
  ((l.heading dialect e.scope e.level.name).toOption.map fun heading =>
    heading ++ " " ++ e.message ++ "\n").getD ""

theorem readPatterns_eq {v : Value} {xs : List Value} (hitems : v.items = .ok xs) :
    readPatterns dialect v = xs.mapM fun v => (dialect.pattern v).mapError .raised := by
  rw [readPatterns, hitems]
  rfl

/-- Fewer items list fewer patterns. -/
theorem readPatterns_subset {v v' : Value} {xs xs' : List Value} {ps ps' : List Pattern}
    (hread : readPatterns dialect v = .ok ps) (hread' : readPatterns dialect v' = .ok ps')
    (hitems : v.items = .ok xs) (hitems' : v'.items = .ok xs') (hsubset : xs' ⊆ xs) : ps' ⊆ ps := by
  rw [readPatterns_eq hitems] at hread
  rw [readPatterns_eq hitems'] at hread'
  intro p hp
  obtain ⟨x, hx, hpattern⟩ := (mem_of_mapM_eq_ok hread').1 hp
  exact (mem_of_mapM_eq_ok hread).2 ⟨x, hsubset hx, hpattern⟩

section Telling

variable {l : Log} {e : Entry} {t : Trace}

theorem trace_of_keeps (htrace : l.trace dialect e.scope e.level.name = .ok t)
    (hkeeps : l.filter.Keeps e) :
    ∃ heading, l.heading dialect e.scope e.level.name = .ok heading ∧ t = .headed heading := by
  rw [trace, admits_level, (l.filter.admits_iff e).2 hkeeps] at htrace
  obtain ⟨_, ⟨⟩, hheaded⟩ := bind_eq_ok.1 htrace
  obtain ⟨heading, hheading, ht⟩ := bind_eq_ok.1 hheaded
  exact ⟨heading, hheading, (Except.ok.inj ht).symm⟩

theorem trace_of_not_keeps (htrace : l.trace dialect e.scope e.level.name = .ok t)
    (hkeeps : ¬ l.filter.Keeps e) : t = .silent := by
  rw [trace, admits_level, Bool.eq_false_iff.2 fun h => hkeeps ((l.filter.admits_iff e).1 h)] at htrace
  exact (Except.ok.inj htrace).symm

theorem isSilent_trace (htrace : l.trace dialect e.scope e.level.name = .ok t) :
    (!t.isSilent) = decide (l.filter.Keeps e) := by
  by_cases hkeeps : l.filter.Keeps e
  · obtain ⟨heading, -, rfl⟩ := trace_of_keeps htrace hkeeps
    rw [decide_eq_true hkeeps]
    rfl
  · rw [trace_of_not_keeps htrace hkeeps, decide_eq_false hkeeps]
    rfl

/-- Telling a message under its trace prints the line of its entry if the filter keeps it. -/
theorem line?_trace (htrace : l.trace dialect e.scope e.level.name = .ok t) :
    (t.line? [.text e.message]).getD "" = if l.filter.Keeps e then l.line dialect e else "" := by
  by_cases hkeeps : l.filter.Keeps e
  · obtain ⟨heading, hheading, rfl⟩ := trace_of_keeps htrace hkeeps
    rw [if_pos hkeeps, line, hheading]
    simp [Trace.line?, Except.toOption, Value.display]
  · rw [if_neg hkeeps, trace_of_not_keeps htrace hkeeps]
    rfl

end Telling

end Log

/-- The settings ask for a filter. -/
structure Settings.AsksFor (dialect : Log.Dialect) (s : Settings) (f : Log.Filter) : Prop where
  level : (s.value .logLevel).text?.bind Log.Level.ofName? = some f.level
  includes : Log.readPatterns dialect (s.value .logIncludes) = .ok f.includes
  excludes : Log.readPatterns dialect (s.value .logExcludes) = .ok f.excludes

/-- Some settings ask for a log with a level that is as strict as that of others or stricter, with no
other patterns to include, and with all their patterns to exclude. -/
structure Settings.StricterLog (s' s : Settings) : Prop where
  level : ∃ level' level, (s'.value .logLevel).text?.bind Log.Level.ofName? = some level' ∧
    (s.value .logLevel).text?.bind Log.Level.ofName? = some level ∧ level'.rank ≤ level.rank
  includes : ∃ xs' xs, (s'.value .logIncludes).items = .ok xs' ∧
    (s.value .logIncludes).items = .ok xs ∧ xs' ⊆ xs
  excludes : ∃ xs' xs, (s'.value .logExcludes).items = .ok xs' ∧
    (s.value .logExcludes).items = .ok xs ∧ xs ⊆ xs'

theorem Settings.StricterLog.filter {dialect : Log.Dialect} {s' s : Settings} (h : s'.StricterLog s)
    {f' f : Log.Filter} (hf' : s'.AsksFor dialect f') (hf : s.AsksFor dialect f) : f'.Stricter f := by
  constructor
  · obtain ⟨level', level, hlevel', hlevel, hle⟩ := h.level
    obtain rfl := Option.some.inj (hlevel'.symm.trans hf'.level)
    obtain rfl := Option.some.inj (hlevel.symm.trans hf.level)
    exact hle
  · obtain ⟨xs', xs, hitems', hitems, hsubset⟩ := h.includes
    exact Log.readPatterns_subset hf.includes hf'.includes hitems hitems' hsubset
  · obtain ⟨xs', xs, hitems', hitems, hsubset⟩ := h.excludes
    exact Log.readPatterns_subset hf'.excludes hf.excludes hitems' hitems hsubset

/-- The workspace, with a log that is asked for everything. -/
def Workspace.unfiltered (w : Workspace) : Workspace :=
  { w with settings := ((w.settings.set .logLevel (.text Log.Level.debug.name)).set .logIncludes
      (.list [Log.anything])).set .logExcludes (.list []) }

theorem Workspace.unfiltered_value {w : Workspace} {s : Setting}
    (h : s ∉ [Setting.logLevel, .logIncludes, .logExcludes]) :
    w.unfiltered.settings.value s = w.settings.value s := by
  simp only [List.mem_cons, List.not_mem_nil, or_false, not_or] at h
  obtain ⟨hlevel, hincludes, hexcludes⟩ := h
  rw [unfiltered, Settings.value_set, if_neg (Ne.symm hexcludes), Settings.value_set,
    if_neg (Ne.symm hincludes), Settings.value_set, if_neg (Ne.symm hlevel)]

theorem Workspace.unfiltered_asksFor {dialect : Log.Dialect} {p : Log.Pattern}
    (hp : dialect.pattern Log.anything = .ok p) (w : Workspace) :
    w.unfiltered.settings.AsksFor dialect (.everything p) := by
  constructor
  · rw [unfiltered, Settings.value_set, if_neg (by decide), Settings.value_set,
      if_neg (by decide), Settings.value_set, if_pos rfl]
    rfl
  · rw [unfiltered, Settings.value_set, if_neg (by decide), Settings.value_set, if_pos rfl,
      Log.readPatterns_eq rfl, List.mapM_cons, hp]
    rfl
  · rw [unfiltered, Settings.value_set, if_pos rfl]
    rfl

namespace Tracer

variable {dialect : Log.Dialect} {w w' : Workspace} {t : Tracer} {l : Log}

/-- The log of a tracer that was started has the filter that the settings ask for. -/
theorem asksFor_of_start (hstart : (start dialect).perform w = (.ok t, w')) (hlog : t.log = some l) :
    w.settings.AsksFor dialect l.filter := by
  obtain ⟨-, -, includes, excludes, hincludes, hexcludes, hopen⟩ := (start_eq_ok_iff hlog).1 hstart
  obtain ⟨level, _, hlevel, -, hfilter, -⟩ := Log.openWith_eq_ok_iff.1 hopen
  rw [Settings.value_noteAll] at hlevel
  rw [hfilter]
  exact ⟨hlevel, hincludes, hexcludes⟩

theorem exists_holds_of_start (hstart : (start dialect).perform w = (.ok t, w'))
    (hlog : t.log = some l) :
    ∃ text, l.sink.Holds w' text := by
  obtain ⟨-, -, _, _, -, -, hopen⟩ := (start_eq_ok_iff hlog).1 hstart
  obtain ⟨_, _, -, hopens, -, -, rfl⟩ := Log.openWith_eq_ok_iff.1 hopen
  exact hopens.exists_holds

/-- A tracer that was started could have been started with a log of everything. -/
theorem start_unfiltered {p : Log.Pattern} (hp : dialect.pattern Log.anything = .ok p)
    (hstart : (start dialect).perform w = (.ok t, w')) (hlog : t.log = some l) :
    ∃ t₀ w₀, (start dialect).perform w.unfiltered = (.ok t₀, w₀) ∧
      t₀.log = some { l with filter := .everything p } := by
  obtain ⟨henabled, htruthy, _, _, -, -, hopen⟩ := (start_eq_ok_iff hlog).1 hstart
  obtain ⟨_, d, -, hopens, -, hformat, -⟩ := Log.openWith_eq_ok_iff.1 hopen
  have hasks := w.unfiltered_asksFor hp
  rw [Settings.value_noteAll] at hopens hformat
  have hopened : ∃ w₀, (Log.openWith (Log.Filter.everything p).includes
      (Log.Filter.everything p).excludes).perform
        { w.unfiltered with settings := w.unfiltered.settings.noteAll startingSettings } =
      (.ok { l with filter := .everything p }, w₀) := by
    refine ⟨_, Log.openWith_eq_ok_iff.2 ⟨_, d, ?_, ?_, rfl, ?_, rfl⟩⟩
    · rw [Settings.value_noteAll]
      exact hasks.level
    · rw [Settings.value_noteAll, Workspace.unfiltered_value (by decide)]
      exact hopens
    · rw [Settings.value_noteAll, Workspace.unfiltered_value (by decide)]
      exact hformat
  obtain ⟨w₀, hopened⟩ := hopened
  refine ⟨⟨t.enabled, some { l with filter := .everything p }⟩, w₀, ?_, rfl⟩
  refine (start_eq_ok_iff rfl).2 ⟨?_, htruthy, _, _, hasks.includes, hasks.excludes, hopened⟩
  rwa [Workspace.unfiltered_value (by decide)]

end Tracer

/-- A notice, as it is logged. -/
def Notice.entry (n : Notice) : Log.Entry := ⟨n.stage.level, n.stage.name, n.message⟩

namespace Conversion

open Log (Trace Entry)

variable {lib : Library}

/-- Note the entry of a notice unless its stage has a silent trace. -/
def recordNotice (traces : List (Stage × Trace)) (n : Notice) : StateM (List Entry) PUnit :=
  if (traceOf traces n.stage).isSilent then return ⟨⟩ else modify (· ++ [n.entry])

/-- The entries that are logged when a project is compiled under a tracer, each stage telling what it
skips when it comes to it. -/
def logged (lib : Library) (project : Value) (t : Tracer) : Task Failure (List Entry) := do
  let traces ← stageTraces lib t
  return ((tellingCompileProject (recordNotice traces) project).run []).2

theorem run_recordNotice (traces : List (Stage × Trace)) (n : Notice) (entries : List Entry) :
    (recordNotice traces n).run entries =
      (⟨⟩, entries ++ if (traceOf traces n.stage).isSilent then [] else [n.entry]) := by
  unfold recordNotice
  cases (traceOf traces n.stage).isSilent with
  | true => simp; rfl
  | false => rfl

theorem run_recordNotices (traces : List (Stage × Trace)) (notices : List Notice)
    (entries : List Entry) :
    (forM notices (recordNotice traces)).run entries = (⟨⟩, entries ++
      (notices.filter fun n => !(traceOf traces n.stage).isSilent).map Notice.entry) := by
  induction notices generalizing entries with
  | nil => simp; rfl
  | cons n notices ih =>
    rw [List.forM_cons, StateT.run_bind, run_recordNotice]
    refine (ih _).trans ?_
    rw [List.filter_cons]
    cases (traceOf traces n.stage).isSilent <;> simp

section Filtered

variable {t : Tracer} {l : Log} {project : Value} {notices : List Notice}

theorem tells_notices {m : Type → Type} [Monad m] [LawfulMonad m] (tell : Notice → m PUnit)
    (hgraph : projectNotices project = .ok notices) :
    Tells tell (tellingCompileProject tell project) notices (compileProject project) := by
  have htells := tells_compileProject tell project
  rw [hgraph] at htells
  exact htells

theorem exists_stageTraces (hlog : t.log = some l) (hfills : l.FormatFills lib.dialect) :
    ∃ traces, stageTraces lib t = Task.ofExcept (.ok traces) ∧
      ∀ s : Stage, l.trace lib.dialect s.name s.level.name = .ok (traceOf traces s) := by
  choose trace htrace using fun s : Stage => Log.exists_trace hfills s.name s.level
  refine ⟨Stage.all.map fun s => (s, trace s), stageTraces_eq fun s => ?_, fun s => ?_⟩
  · rw [Tracer.trace, hlog]
    exact htrace s
  · rw [traceOf_stages, htrace]

/-- Compiling a graph logs what there is to tell, as far as the filter keeps it. -/
theorem logged_gives (hlog : t.log = some l) (hfills : l.FormatFills lib.dialect)
    (hgraph : projectNotices project = .ok notices) :
    (logged lib project t).Gives
      (.ok ((notices.map Notice.entry).filter fun e => l.filter.Keeps e)) := by
  obtain ⟨traces, htraces, htrace⟩ := exists_stageTraces hlog hfills
  have hkeeps : ∀ n : Notice,
      (!(traceOf traces n.stage).isSilent) = decide (l.filter.Keeps n.entry) :=
    fun n => Log.isSilent_trace (e := n.entry) (htrace n.stage)
  have hrecorded : ((tellingCompileProject (recordNotice traces) project).run []).2 =
      (notices.map Notice.entry).filter fun e => l.filter.Keeps e := by
    rw [tells_notices _ hgraph, StateT.run_bind, run_recordNotices, funext hkeeps, List.filter_map]
    rfl
  rw [logged, htraces]
  exact (Task.Gives.ofExcept _).bind (hrecorded ▸ .ofExcept _)

theorem tellNotice_adds (hlog : t.log = some l) (hopen : l.sink.isOpen = true)
    {traces : List (Stage × Trace)} {n : Notice}
    (htrace : l.trace lib.dialect n.stage.name n.stage.level.name = .ok (traceOf traces n.stage)) :
    l.sink.Adds (tellNotice t traces n)
      (if l.filter.Keeps n.entry then l.line lib.dialect n.entry else "") := by
  have htold := Log.tell_adds hopen (traceOf traces n.stage) [.text n.entry.message]
  have htell : tellNotice t traces n =
      Task.mapError .log (l.tell (traceOf traces n.stage) [.text n.entry.message]) := by
    rw [tellNotice, Tracer.tell, hlog]
    rfl
  rw [Log.line?_trace (e := n.entry) htrace] at htold
  rw [htell]
  exact htold.mapError _

theorem join_map_ite {α : Type} (p : α → Prop) [DecidablePred p] (f : α → String) (xs : List α) :
    String.join (xs.map fun x => if p x then f x else "") =
      String.join ((xs.filter fun x => p x).map f) := by
  induction xs with
  | nil => rfl
  | cons x xs ih =>
    rw [List.map_cons, String.join_cons, ih, List.filter_cons]
    by_cases h : p x <;> simp [h]

theorem tellNotices_adds (hlog : t.log = some l) (hopen : l.sink.isOpen = true)
    {traces : List (Stage × Trace)} (notices : List Notice)
    (htrace : ∀ s : Stage, l.trace lib.dialect s.name s.level.name = .ok (traceOf traces s)) :
    l.sink.Adds (forM notices (tellNotice t traces)) (String.join
      (((notices.map Notice.entry).filter fun e => l.filter.Keeps e).map (l.line lib.dialect))) := by
  have hlines := join_map_ite l.filter.Keeps (l.line lib.dialect) (notices.map Notice.entry)
  rw [List.map_map] at hlines
  rw [← hlines]
  exact .forM fun n _ => tellNotice_adds hlog hopen (htrace n.stage)

theorem exists_model (hgraph : projectNotices project = .ok notices) :
    ∃ model, compileProject project = .ok model := by
  unfold projectNotices at hgraph
  unfold compileProject
  cases hread : Diagram.ofProject project with
  | error e =>
    rw [hread] at hgraph
    cases hgraph
  | ok read => exact ⟨_, rfl⟩

/-- The log gains the lines of the entries that its filter keeps. -/
theorem compileTraced_adds (hlog : t.log = some l) (hopen : l.sink.isOpen = true)
    (hfills : l.FormatFills lib.dialect) (hgraph : projectNotices project = .ok notices) {w : Workspace}
    {text : String} (hholds : l.sink.Holds w text) :
    ∃ model w', compileProject project = .ok model ∧
      (compileTraced lib project t).perform w = (.ok model, w') ∧
      l.sink.Holds w' (text ++
        String.join (((notices.map Notice.entry).filter fun e => l.filter.Keeps e).map
          (l.line lib.dialect))) := by
  obtain ⟨traces, htraces, htrace⟩ := exists_stageTraces hlog hfills
  obtain ⟨model, hmodel⟩ := exists_model hgraph
  obtain ⟨w', htold, hholds', -⟩ := tellNotices_adds hlog hopen notices htrace hholds
  refine ⟨model, w', hmodel, ?_, hholds'⟩
  have hcompiled : (tellingCompileProject (tellNotice t traces) project).perform w =
      (.ok (.ok model), w') := by
    rw [tells_notices _ hgraph, Task.perform_bind_of_ok htold, hmodel]
    rfl
  have htraced : (Task.ofExcept (.ok traces) : Task Failure _).perform w = (.ok traces, w) := rfl
  rw [compileTraced_eq, compileTelling, htraces, Task.perform_bind_of_ok htraced,
    Task.perform_bind_of_ok hcompiled]
  rfl

end Filtered

/-- Filtering a log only filters.  What compiling a graph logs is what it would log if the level were
the last one, all scopes were included and none excluded, less what the filter of the log does not
keep, in that order; the text of the log gains the lines of just these entries; and settings that ask
for a stricter log have nothing added, changed or moved. -/
theorem filtering_only_filters {w w' : Workspace} {t : Tracer} {l : Log} {project : Value}
    {notices : List Notice} (hanything : lib.dialect.KnowsAnything)
    (hstart : (Tracer.start lib.dialect).perform w = (.ok t, w')) (hlog : t.log = some l)
    (hfills : l.FormatFills lib.dialect) (hgraph : projectNotices project = .ok notices) :
    let everything := notices.map Notice.entry
    let kept := everything.filter fun e => l.filter.Keeps e
    w.settings.AsksFor lib.dialect l.filter ∧
      (∃ t₀ w₀, (Tracer.start lib.dialect).perform w.unfiltered = (.ok t₀, w₀) ∧
        (logged lib project t₀).Gives (.ok everything)) ∧
      (logged lib project t).Gives (.ok kept) ∧
      (∃ before model w'', l.sink.Holds w' before ∧ compileProject project = .ok model ∧
        (compileTraced lib project t).perform w' = (.ok model, w'') ∧
        l.sink.Holds w'' (before ++ String.join (kept.map (l.line lib.dialect)))) ∧
      ∀ w₁ w₁' t₁ l₁, (Tracer.start lib.dialect).perform w₁ = (.ok t₁, w₁') → t₁.log = some l₁ →
        l₁.FormatFills lib.dialect → w₁.settings.StricterLog w.settings →
        ∃ kept₁, (logged lib project t₁).Gives (.ok kept₁) ∧ kept₁.Sublist kept := by
  intro everything kept
  have hasks := Tracer.asksFor_of_start hstart hlog
  refine ⟨hasks, ?everything, logged_gives hlog hfills hgraph, ?text, ?stricter⟩
  case everything =>
    obtain ⟨p, hp, hmatches⟩ := hanything
    obtain ⟨t₀, w₀, hstart₀, hlog₀⟩ := Tracer.start_unfiltered hp hstart hlog
    have hlogged := logged_gives hlog₀ (hfills.congr rfl) hgraph
    rw [List.filter_eq_self.2 fun e _ =>
      decide_eq_true (Log.Filter.everything_keeps hmatches e)] at hlogged
    exact ⟨t₀, w₀, hstart₀, hlogged⟩
  case text =>
    obtain ⟨before, hbefore⟩ := Tracer.exists_holds_of_start hstart hlog
    obtain ⟨model, w'', hcompiled⟩ :=
      compileTraced_adds hlog (Tracer.start_eq_ok hstart l hlog) hfills hgraph hbefore
    exact ⟨before, model, w'', hbefore, hcompiled⟩
  case stricter =>
    intro w₁ w₁' t₁ l₁ hstart₁ hlog₁ hfills₁ hstricter
    have hfilter := hstricter.filter (Tracer.asksFor_of_start hstart₁ hlog₁) hasks
    refine ⟨_, logged_gives hlog₁ hfills₁ hgraph, ?_⟩
    refine List.monotone_filter_right everything fun e he => ?_
    exact decide_eq_true (hfilter.keeps (of_decide_eq_true he))

/-- Settings for a file of warnings, but of none under scopes that start with "act". -/
def wary : Settings :=
  (loud.settings.set .logLevel (.text "WARNING")).set .logExcludes (.list [.text "act"])

/-- The same settings, with one more pattern to exclude. -/
def warier : Settings := wary.set .logExcludes (.list [.text "act", .text "gr.*h"])

theorem warier_stricterLog : warier.StricterLog wary := by
  refine ⟨⟨.warning, .warning, rfl, rfl, Nat.le_refl _⟩, ⟨_, _, rfl, rfl, List.Subset.refl _⟩, ?_⟩
  exact ⟨_, _, rfl, rfl, List.subset_append_left [Value.text "act"] [.text "gr.*h"]⟩

theorem logged_wary : Library.basic.dialect.KnowsAnything ∧ ∃ t w',
    (Tracer.start Library.basic.dialect).perform ⟨wary, .empty, ""⟩ = (.ok t, w') ∧
    (logged .basic namelessProject t).Gives
      (.ok [⟨.warning, "graph", "skipping node #0 without id"⟩]) ∧
    ∃ t₁ w₁, (Tracer.start Library.basic.dialect).perform ⟨warier, .empty, ""⟩ = (.ok t₁, w₁) ∧
      ∃ kept, (logged .basic namelessProject t₁).Gives (.ok kept) ∧
        kept.Sublist [⟨.warning, "graph", "skipping node #0 without id"⟩] := by
  have hanything : Library.basic.dialect.KnowsAnything := Log.Dialect.basic_knowsAnything
  refine ⟨hanything, _, _, rfl, ?_⟩
  obtain ⟨-, -, hlogged, -, hstricter⟩ :=
    filtering_only_filters (w := ⟨wary, .empty, ""⟩) hanything rfl rfl (Log.formatFills_default rfl)
      (show projectNotices namelessProject = .ok _ from rfl)
  refine ⟨hlogged, _, _, rfl, ?_⟩
  exact hstricter ⟨warier, .empty, ""⟩ _ _ _ rfl rfl (Log.formatFills_default rfl)
    warier_stricterLog

end Conversion

end FlowDiagram
