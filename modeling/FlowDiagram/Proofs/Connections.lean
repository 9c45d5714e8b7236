import FlowDiagram.Connection.Basic
import FlowDiagram.Proofs.Diagram
import FlowDiagram.Proofs.OrderedMap
import Mathlib.Data.List.Nodup

/-! # Connections, edge by edge

An edge between two activities connects them, whatever has been found before.  An edge from an
activity to a generator connects the activity to all that the generator starts, but for the pairs
of names that an earlier edge has connected in this way.  The connections of a diagram are what its
edges add, one after the other; of either sort alone they are a list over all edges.
-/

namespace FlowDiagram

/-- The kind of the connection between two activities that an edge joins. -/
def Edge.joinKind (e : Edge) : Connection.Kind :=
  if e.isDependency then e.dependencyKind else .flow

namespace Edge

variable (e : Edge)

theorem joinKind_eq_flow : e.joinKind = .flow ↔ e.isDependency = false := by
  unfold joinKind dependencyKind
  cases e.isDependency
  · simp
  · simp only [if_true]
    split <;> simp

theorem joinKind_eq_startToStart :
    e.joinKind = .startToStart ↔
      e.isDependency = true ∧ e.sourceSide = some .left ∧ e.targetSide = some .left := by
  unfold joinKind dependencyKind
  cases e.isDependency <;> simp

theorem joinKind_eq_finishToFinish :
    e.joinKind = .finishToFinish ↔
      e.isDependency = true ∧ ¬(e.sourceSide = some .left ∧ e.targetSide = some .left) := by
  unfold joinKind dependencyKind
  cases e.isDependency <;> simp

theorem joinKind_ne_inflow : e.joinKind ≠ .startToInflow := by
  unfold joinKind dependencyKind
  cases e.isDependency
  · simp
  · simp only [if_true]
    split <;> decide

end Edge

namespace Diagram

/-- The connection of the two activities that an edge joins. -/
def joined? (d : Diagram) (e : Edge) : Option Connection := do
  let source ← d.node? e.source
  let target ← d.node? e.target
  if source.kind = .activity ∧ target.kind = .activity then
    some ⟨e.joinKind, source.name, target.name⟩
  else none

/-- The names of two activities, if an edge leads from the first to a generator and a flow edge
from the generator to the second. -/
def passedOn? (d : Diagram) (e onward : Edge) : Option (String × String) := do
  let source ← d.node? e.source
  let generator ← d.node? e.target
  let started ← d.node? onward.target
  if source.kind = .activity ∧ generator.kind = .generator ∧ onward.isDependency = false ∧
      onward.source = generator.id ∧ started.kind = .activity then
    some (source.name, started.name)
  else none

/-- The pairs of names that an edge connects through a generator, in the order of the edges that
leave the generator. -/
def passedOn (d : Diagram) (e : Edge) : List (String × String) :=
  d.edges.filterMap (d.passedOn? e)

def inflow (names : String × String) : Connection := ⟨.startToInflow, names.1, names.2⟩

/-- What an edge adds to the connections, after some other edges. -/
def added (d : Diagram) (earlier : List Edge) (e : Edge) : List Connection :=
  (d.joined? e).toList ++ (keepFresh (earlier.flatMap d.passedOn) (d.passedOn e)).map inflow

/-- What edges add one after the other, after some other edges. -/
def addedInTurn (d : Diagram) (earlier : List Edge) : List Edge → List Connection
  | [] => []
  | e :: es => d.added earlier e ++ d.addedInTurn (earlier ++ [e]) es

/-- An edge leads from an activity to a generator, and a flow edge from there to an activity. -/
inductive Inflow (d : Diagram) : String → String → Prop where
  | through {e onward : Edge} {source generator started : Node} :
      e ∈ d.edges → d.node? e.source = some source → d.node? e.target = some generator →
      source.kind = .activity → generator.kind = .generator →
      onward ∈ d.edges → onward.isDependency = false → onward.source = generator.id →
      d.node? onward.target = some started → started.kind = .activity →
      Inflow d source.name started.name

variable {d : Diagram} {c : Connection} {e : Edge}

@[simp] theorem inflow_kind (names : String × String) : (inflow names).kind = .startToInflow := rfl

theorem inflow_injective : Function.Injective inflow := by
  rintro ⟨s, t⟩ ⟨s', t'⟩ h
  cases h
  rfl

theorem joined?_eq_some :
    d.joined? e = some c ↔
      ∃ source, d.node? e.source = some source ∧ ∃ target, d.node? e.target = some target ∧
        (source.kind = .activity ∧ target.kind = .activity) ∧
          ⟨e.joinKind, source.name, target.name⟩ = c := by
  simp only [joined?, Option.bind_eq_bind, Option.bind_eq_some_iff, Option.ite_none_right_eq_some,
    Option.some.injEq]

theorem joined?_congr {d' : Diagram} (h : d'.nodes = d.nodes) (e : Edge) :
    d'.joined? e = d.joined? e := by
  simp only [joined?, node?_congr h]

theorem passedOn?_eq_some {onward : Edge} {names : String × String} :
    d.passedOn? e onward = some names ↔
      ∃ source, d.node? e.source = some source ∧ ∃ generator, d.node? e.target = some generator ∧
        ∃ started, d.node? onward.target = some started ∧
          (source.kind = .activity ∧ generator.kind = .generator ∧ onward.isDependency = false ∧
            onward.source = generator.id ∧ started.kind = .activity) ∧
          (source.name, started.name) = names := by
  simp only [passedOn?, Option.bind_eq_bind, Option.bind_eq_some_iff,
    Option.ite_none_right_eq_some, Option.some.injEq]

theorem mem_flatMap_passedOn {source target : String} :
    (source, target) ∈ d.edges.flatMap d.passedOn ↔ Inflow d source target := by
  simp only [passedOn, List.mem_flatMap, List.mem_filterMap, passedOn?_eq_some, Prod.mk.injEq]
  constructor
  · rintro ⟨e, he, o, ho, s, hs, g, hg, t, ht, ⟨hsk, hgk, hflow, hfrom, htk⟩, rfl, rfl⟩
    exact .through he hs hg hsk hgk ho hflow hfrom ht htk
  · rintro ⟨he, hs, hg, hsk, hgk, ho, hflow, hfrom, ht, htk⟩
    exact ⟨_, he, _, ho, _, hs, _, hg, _, ht, ⟨hsk, hgk, hflow, hfrom, htk⟩, rfl, rfl⟩

/-- What is passed on through a generator is what the generator starts. -/
theorem passedOn_eq_map_startedBy {source target : Node} (hs : d.node? e.source = some source)
    (ht : d.node? e.target = some target) :
    d.passedOn e =
      if source.kind = .activity ∧ target.kind = .generator then
        (d.startedBy target.id).map (source.name, ·)
      else [] := by
  split
  · next hkinds =>
    rw [passedOn, startedBy, outgoing_eq_filter, List.filterMap_filter, List.map_filterMap]
    refine List.filterMap_congr fun onward _ => ?_
    cases hstarted : d.node? onward.target with
    | none => simp [passedOn?, hs, ht, hstarted]
    | some started =>
      by_cases hfrom : onward.source = target.id
      · cases hdep : onward.isDependency <;> simp [passedOn?, hs, ht, hstarted, hkinds, hfrom, hdep]
      · simp [passedOn?, hs, ht, hfrom]
  · next hkinds =>
    rw [passedOn, List.filterMap_eq_nil_iff]
    intro onward _
    rw [Option.eq_none_iff_forall_ne_some]
    intro names hnames
    obtain ⟨s, hs', g, hg, -, -, ⟨hsk, hgk, -⟩, -⟩ := passedOn?_eq_some.1 hnames
    rw [hs] at hs'
    rw [ht] at hg
    cases hs'
    cases hg
    exact hkinds ⟨hsk, hgk⟩

/-- An edge of which an end means nothing connects nothing. -/
theorem unresolved (h : d.resolve? e = none) : d.joined? e = none ∧ d.passedOn e = [] := by
  rw [Option.eq_none_iff_forall_ne_some] at h
  constructor
  · rw [Option.eq_none_iff_forall_ne_some]
    intro c hc
    obtain ⟨s, hs, t, ht, -⟩ := joined?_eq_some.1 hc
    exact h ⟨e, s, t⟩ (resolve?_eq_some.2 ⟨rfl, hs, ht⟩)
  · rw [passedOn, List.filterMap_eq_nil_iff]
    intro onward _
    rw [Option.eq_none_iff_forall_ne_some]
    intro names hnames
    obtain ⟨s, hs, t, ht, -⟩ := passedOn?_eq_some.1 hnames
    exact h ⟨e, s, t⟩ (resolve?_eq_some.2 ⟨rfl, hs, ht⟩)

namespace Found

/-- With further pairs of names connected through generators. -/
def withInflows (f : Found) (new : List (String × String)) : Found :=
  ⟨f.connections ++ new.map inflow, f.inflows ++ new⟩

/-- Connecting an activity to one name after another adds the pairs that are new. -/
theorem foldl_addInflow (source : String) (names : List String) (f : Found) :
    names.foldl (fun f started => f.addInflow source started) f =
      f.withInflows (keepFresh f.inflows (names.map (source, ·))) := by
  induction names generalizing f with
  | nil => simp [withInflows]
  | cons name names ih =>
    rw [List.foldl_cons, ih, List.map_cons, keepFresh_cons, addInflow]
    split
    · rfl
    · simp [withInflows, inflow]

/-- Going over an edge adds what the edge adds after those before it. -/
theorem addEdge_resolve? {f : Found} {earlier : List Edge}
    (hf : f.inflows = keepFirst (earlier.flatMap d.passedOn)) (e : Edge) :
    (d.resolve? e).elim f (addEdge d f) =
      ⟨f.connections ++ d.added earlier e, keepFirst ((earlier ++ [e]).flatMap d.passedOn)⟩ := by
  have hinflows : keepFirst ((earlier ++ [e]).flatMap d.passedOn) =
      f.inflows ++ keepFresh f.inflows (d.passedOn e) := by
    rw [List.flatMap_append, keepFirst_append, hf, List.flatMap_singleton,
      keepFresh_congr fun _ => mem_keepFirst]
  have hfresh : keepFresh f.inflows (d.passedOn e) =
      keepFresh (earlier.flatMap d.passedOn) (d.passedOn e) := by
    rw [hf, keepFresh_congr fun _ => mem_keepFirst]
  rw [hinflows, added, ← hfresh]
  cases hp : d.resolve? e with
  | none =>
    obtain ⟨hj, hpass⟩ := unresolved hp
    simp [hj, hpass]
  | some p =>
    obtain ⟨rfl, hs, ht⟩ := resolve?_eq_some.1 hp
    rw [passedOn_eq_map_startedBy hs ht, joined?, hs, ht]
    simp only [Option.elim_some, addEdge]
    split
    · next hsk htk =>
      rw [foldl_addInflow]
      simp [hsk, htk, withInflows]
    · next hsk htk => simp [hsk, htk, add, Edge.joinKind]
    · next hflow hjoin =>
      rw [if_neg fun h => hflow h.1 h.2]
      have hnone : ¬(p.source.kind = .activity ∧ p.target.kind = .activity) :=
        fun h => hjoin h.1 h.2
      simp [hnone]

/-- Going over edges adds what they add in turn after those before them. -/
theorem foldl_addEdge (es : List Edge) {f : Found} {earlier : List Edge}
    (hf : f.inflows = keepFirst (earlier.flatMap d.passedOn)) :
    (es.foldl (fun f e => (d.resolve? e).elim f (addEdge d f)) f).connections =
      f.connections ++ d.addedInTurn earlier es := by
  induction es generalizing f earlier with
  | nil => simp [addedInTurn]
  | cons e es ih =>
    rw [List.foldl_cons, addEdge_resolve? hf, ih rfl, addedInTurn, List.append_assoc]

end Found

theorem connections_eq_addedInTurn (d : Diagram) :
    d.connections = d.addedInTurn [] d.edges := by
  have hedges : d.endpoints.foldl (Found.addEdge d) ⟨[], []⟩ =
      d.edges.foldl (fun f e => (d.resolve? e).elim f (Found.addEdge d f)) ⟨[], []⟩ := by
    rw [endpoints_eq_filterMap, List.foldl_filterMap]
    congr 1
    funext f e
    cases d.resolve? e <;> rfl
  have hnone : (⟨[], []⟩ : Found).inflows = keepFirst (([] : List Edge).flatMap d.passedOn) := rfl
  rw [connections, hedges, Found.foldl_addEdge d.edges hnone, List.nil_append]

theorem addedInTurn_append (d : Diagram) (earlier es es' : List Edge) :
    d.addedInTurn earlier (es ++ es') =
      d.addedInTurn earlier es ++ d.addedInTurn (earlier ++ es) es' := by
  induction es generalizing earlier with
  | nil => simp [addedInTurn]
  | cons e es ih =>
    rw [List.cons_append, addedInTurn, addedInTurn, ih, List.append_assoc, List.append_assoc,
      List.singleton_append]

/-- What edges add depends on what each of them connects. -/
theorem addedInTurn_congr {d' : Diagram} {earlier es : List Edge}
    (hjoined : ∀ e ∈ es, d'.joined? e = d.joined? e)
    (hpassed : ∀ e ∈ earlier ++ es, d'.passedOn e = d.passedOn e) :
    d'.addedInTurn earlier es = d.addedInTurn earlier es := by
  induction es generalizing earlier with
  | nil => rfl
  | cons e es ih =>
    have hearlier : earlier.flatMap d'.passedOn = earlier.flatMap d.passedOn :=
      List.flatMap_congr fun e' he' => hpassed e' (by simp [he'])
    rw [addedInTurn, addedInTurn, added, added, hjoined e (by simp), hpassed e (by simp), hearlier,
      ih (fun e' he' => hjoined e' (by simp [he'])) (by simpa using hpassed)]

/-- Edges that connect other pairs of names through generators may as well not have come before. -/
theorem addedInTurn_of_disjoint {other earlier es : List Edge}
    (h : ∀ names ∈ es.flatMap d.passedOn, names ∉ other.flatMap d.passedOn) :
    d.addedInTurn (other ++ earlier) es = d.addedInTurn earlier es := by
  induction es generalizing earlier with
  | nil => rfl
  | cons e es ih =>
    have hfresh : keepFresh ((other ++ earlier).flatMap d.passedOn) (d.passedOn e) =
        keepFresh (earlier.flatMap d.passedOn) (d.passedOn e) := by
      rw [List.flatMap_append]
      exact keepFresh_disjoint (fun names hn => h names (by simp [hn])) _
    rw [addedInTurn, addedInTurn, added, added, hfresh, List.append_assoc other earlier [e],
      ih fun names hn => h names (by simp only [List.flatMap_cons, List.mem_append, hn, or_true])]

theorem filter_join_map_inflow (new : List (String × String)) :
    (new.map inflow).filter (·.kind ≠ .startToInflow) = [] := by
  rw [List.filter_eq_nil_iff]
  intro c hc
  obtain ⟨names, -, rfl⟩ := List.mem_map.1 hc
  simp

theorem filter_inflow_map_inflow (new : List (String × String)) :
    (new.map inflow).filter (·.kind = .startToInflow) = new.map inflow := by
  rw [List.filter_eq_self]
  intro c hc
  obtain ⟨names, -, rfl⟩ := List.mem_map.1 hc
  simp

theorem joined?_kind (h : d.joined? e = some c) : c.kind = e.joinKind := by
  obtain ⟨s, -, t, -, -, rfl⟩ := joined?_eq_some.1 h
  rfl

theorem kind_of_joined? (h : d.joined? e = some c) : c.kind ≠ .startToInflow := by
  rw [joined?_kind h]
  exact e.joinKind_ne_inflow

/-- Every edge adds its connection of two activities. -/
theorem filter_join_addedInTurn (d : Diagram) (earlier es : List Edge) :
    (d.addedInTurn earlier es).filter (·.kind ≠ .startToInflow) = es.filterMap d.joined? := by
  induction es generalizing earlier with
  | nil => rfl
  | cons e es ih =>
    rw [addedInTurn, List.filter_append, ih, added, List.filter_append, filter_join_map_inflow,
      List.append_nil, List.filterMap_cons]
    cases hj : d.joined? e with
    | none => rfl
    | some c => simp [kind_of_joined? hj]

/-- Of the pairs of names that edges connect through generators, those are added that are new. -/
theorem filter_inflow_addedInTurn (d : Diagram) (earlier es : List Edge) :
    (d.addedInTurn earlier es).filter (·.kind = .startToInflow) =
      (keepFresh (earlier.flatMap d.passedOn) (es.flatMap d.passedOn)).map inflow := by
  induction es generalizing earlier with
  | nil => rfl
  | cons e es ih =>
    have hjoin : (d.joined? e).toList.filter (·.kind = .startToInflow) = [] := by
      cases hj : d.joined? e with
      | none => rfl
      | some c => simp [kind_of_joined? hj]
    rw [addedInTurn, List.filter_append, ih, added, List.filter_append, hjoin,
      filter_inflow_map_inflow, List.nil_append, ← List.map_append, List.flatMap_cons,
      keepFresh_append, List.flatMap_append, List.flatMap_singleton]

theorem connections_filter_join (d : Diagram) :
    d.connections.filter (·.kind ≠ .startToInflow) = d.edges.filterMap d.joined? := by
  rw [connections_eq_addedInTurn, filter_join_addedInTurn]

theorem connections_filter_inflow (d : Diagram) :
    d.connections.filter (·.kind = .startToInflow) =
      (keepFirst (d.edges.flatMap d.passedOn)).map inflow := by
  rw [connections_eq_addedInTurn, filter_inflow_addedInTurn, List.flatMap_nil, keepFresh_empty]

theorem inflow_mem_connections {source target : String} :
    ⟨.startToInflow, source, target⟩ ∈ d.connections ↔ Inflow d source target := by
  have hfilter : ⟨.startToInflow, source, target⟩ ∈ d.connections ↔
      inflow (source, target) ∈ d.connections.filter (·.kind = .startToInflow) := by
    simp [inflow]
  rw [hfilter, connections_filter_inflow, List.mem_map_of_injective inflow_injective,
    mem_keepFirst, mem_flatMap_passedOn]

/-- A connection is that of an edge between activities or leads through a generator. -/
theorem mem_connections :
    c ∈ d.connections ↔
      (∃ e ∈ d.edges, d.joined? e = some c) ∨
        ∃ source target, Inflow d source target ∧ c = inflow (source, target) := by
  rw [← List.mem_filterMap, ← connections_filter_join, List.mem_filter]
  by_cases hkind : c.kind = .startToInflow
  · obtain ⟨kind, source, target⟩ := c
    cases hkind
    simp [inflow_mem_connections, inflow]
  · have hinflow : ∀ names, c ≠ inflow names := fun names h => hkind (h ▸ inflow_kind names)
    simp [hkind, hinflow]

/-- A connection joins the names of drawn activities. -/
theorem named_of_mem_connections (hc : c ∈ d.connections) :
    (∃ n ∈ d.activities, n.name = c.source) ∧ ∃ n ∈ d.activities, n.name = c.target := by
  rcases mem_connections.1 hc with ⟨e, -, he⟩ | ⟨source, target, h, rfl⟩
  · obtain ⟨s, hs, t, ht, ⟨hsk, htk⟩, rfl⟩ := joined?_eq_some.1 he
    exact ⟨⟨s, mem_nodesOfKind_of_node? hs hsk, rfl⟩, ⟨t, mem_nodesOfKind_of_node? ht htk, rfl⟩⟩
  · cases h with
    | through _ hs _ hsk _ _ _ _ ht htk =>
      exact ⟨⟨_, mem_nodesOfKind_of_node? hs hsk, rfl⟩, ⟨_, mem_nodesOfKind_of_node? ht htk, rfl⟩⟩

/-- The connections are what the edges add in turn.  Those of two activities are one for each edge
that joins them, and their kind tells how.  The others are the pairs of names that lead through a
generator, each where it first occurs.  There is no further kind. -/
theorem connections_sound_complete_ordered (d : Diagram) :
    d.connections = d.addedInTurn [] d.edges ∧
      (d.connections.filter (·.kind ≠ .startToInflow) = d.edges.filterMap d.joined? ∧
        ∀ e : Edge,
          (e.joinKind = .flow ↔ e.isDependency = false) ∧
          (e.joinKind = .startToStart ↔
            e.isDependency = true ∧ e.sourceSide = some .left ∧ e.targetSide = some .left) ∧
          (e.joinKind = .finishToFinish ↔
            e.isDependency = true ∧ ¬(e.sourceSide = some .left ∧ e.targetSide = some .left))) ∧
      (d.connections.filter (·.kind = .startToInflow) =
          (keepFirst (d.edges.flatMap d.passedOn)).map inflow ∧
        (d.connections.filter (·.kind = .startToInflow)).Nodup ∧
        ∀ source target,
          ⟨.startToInflow, source, target⟩ ∈ d.connections ↔ Inflow d source target) ∧
      ∀ c ∈ d.connections,
        c.kind.name ∈ ["StartToInflow", "StartToStart", "FinishToFinish", "Flow"] := by
  refine ⟨d.connections_eq_addedInTurn, ⟨d.connections_filter_join, fun e => ?_⟩,
    ⟨d.connections_filter_inflow, ?_, fun _ _ => inflow_mem_connections⟩, fun c _ => ?_⟩
  · exact ⟨e.joinKind_eq_flow, e.joinKind_eq_startToStart, e.joinKind_eq_finishToFinish⟩
  · rw [connections_filter_inflow]
    exact (nodup_keepFirst _).map inflow_injective
  · cases c.kind <;> decide

end Diagram

end FlowDiagram
