import FlowDiagram.Model.Compile
import FlowDiagram.Proofs.Connections
import FlowDiagram.Proofs.Ownership
import FlowDiagram.Proofs.Relationships
import Mathlib.Data.List.Forall2

/-! # The order of edges

Two diagrams with the same nodes and the same edges in another order compile to models that differ
in the order of lists only.  Of several claims to an activity the order of the generators decides,
and what edges show is shown by edges wherever they stand.  There is one exception: a resource whose
name is that of several entities, when blanks and parentheses do not count, refers to the entity
that was assigned first, and so the relationships are the same only if there is no such choice.
-/

namespace FlowDiagram

/-- The two records differ in the order of their conditions at most. -/
structure Activity.SameButOrder (a b : Activity) : Prop where
  id : a.id = b.id
  handlerType : a.handlerType = b.handlerType
  initial : a.initial = b.initial
  requirements : a.requirements = b.requirements
  conditions : a.conditions.Perm b.conditions

/-- Generators of different names have different normalized names. -/
def DistinctEntities (nodes : List Node) : Prop :=
  ∀ g ∈ nodes, ∀ g' ∈ nodes, g.kind = .generator → g'.kind = .generator →
    normalizeName g.name = normalizeName g'.name → g.name = g'.name

instance (nodes : List Node) : Decidable (DistinctEntities nodes) :=
  inferInstanceAs (Decidable (∀ g ∈ nodes, _))

namespace Diagram

/-- Entities that are active are generators, and so have different normalized names if generators
do. -/
theorem distinct_active {d : Diagram} (hdistinct : DistinctEntities d.nodes) :
    ∀ a ∈ activeEntities d.owners, ∀ b ∈ activeEntities d.owners,
      normalizeName a = normalizeName b → a = b := by
  intro a ha b hb hname
  obtain ⟨-, x, hx⟩ := mem_activeEntities.1 ha
  obtain ⟨-, y, hy⟩ := mem_activeEntities.1 hb
  obtain ⟨g, hg, rfl, -⟩ := exists_of_owners_get? hx
  obtain ⟨g', hg', rfl, -⟩ := exists_of_owners_get? hy
  obtain ⟨hg, hk⟩ := mem_nodesOfKind.1 hg
  obtain ⟨hg', hk'⟩ := mem_nodesOfKind.1 hg'
  exact hdistinct g hg g' hg' hk hk' hname

/-- The second diagram has the edges of the first in another order. -/
structure Reorders (d d' : Diagram) : Prop where
  nodes : d'.nodes = d.nodes
  edges : d'.edges.Perm d.edges

namespace Reorders

variable {d d' : Diagram} (h : Reorders d d') {a x : String} {g : Node} {e : Edge}

include h

theorem symm : Reorders d' d := ⟨h.nodes.symm, h.edges.symm⟩

theorem node? (x : String) : d'.node? x = d.node? x := node?_congr h.nodes x

theorem nodesOfKind (k : Node.Kind) : d'.nodesOfKind k = d.nodesOfKind k :=
  nodesOfKind_congr h.nodes k

theorem hasKind (x : String) (k : Node.Kind) : d'.hasKind x k = d.hasKind x k :=
  hasKind_congr h.nodes x k

theorem mem_flowEdges : ∀ e ∈ d.flowEdges, e ∈ d'.flowEdges :=
  fun _ he => (h.edges.filter _).mem_iff.2 he

theorem incoming (x : String) : (d'.incoming x).Perm (d.incoming x) := by
  rw [incoming_eq_filter, incoming_eq_filter]
  exact h.edges.filter _

theorem claims (hc : d.Claims g a) : d'.Claims g a := hc.mono h.nodes h.mem_flowEdges

theorem walksTo (hw : d.WalksTo g a) : d'.WalksTo g a := hw.mono h.nodes h.mem_flowEdges

/-- The order of the generators alone decides whom an activity belongs to. -/
theorem owners_get? (a : String) : d'.owners.get? a = d.owners.get? a := by
  have hclaims : ∀ g, d'.Claims g a ↔ d.Claims g a := fun g => ⟨h.symm.claims, h.claims⟩
  have hwalks : ∀ g, d'.WalksTo g a ↔ d.WalksTo g a := fun g => ⟨h.symm.walksTo, h.walksTo⟩
  simp only [Diagram.owners_get?, generators, h.nodesOfKind, hclaims, hwalks]

theorem mem_activeEntities {name : String} (hn : name ∈ activeEntities d.owners) :
    name ∈ activeEntities d'.owners := by
  simpa only [FlowDiagram.mem_activeEntities, h.owners_get?] using hn

theorem resources : d'.resources = d.resources := by
  rw [Diagram.resources, Diagram.resources, activities, activities, h.nodesOfKind]

theorem isInitial (n : Node) : d'.isInitial n = d.isInitial n := by
  simp only [Diagram.isInitial, h.hasKind]
  exact (h.incoming n.id).any_eq

theorem conditions (n : Node) : (d'.conditions n).Perm (d.conditions n) :=
  ((h.incoming n.id).filter _).filterMap _

theorem lower (n : Node) : (d'.lower d'.owners n).SameButOrder (d.lower d.owners n) where
  id := rfl
  handlerType := congrArg (·.getD unknownEntity) (h.owners_get? n.id)
  initial := h.isInitial n
  requirements := rfl
  conditions := h.conditions n

theorem lowerAll :
    List.Forall₂ Activity.SameButOrder (d'.lowerAll d'.owners) (d.lowerAll d.owners) := by
  rw [Diagram.lowerAll, Diagram.lowerAll, activities, activities, h.nodesOfKind,
    List.forall₂_map_left_iff, List.forall₂_map_right_iff, List.forall₂_same]
  exact fun n _ => h.lower n

theorem inflow {s t : String} (hi : Inflow d s t) : Inflow d' s t := by
  cases hi with
  | through he hs hg hsk hgk ho hflow hfrom ht htk =>
    rw [← h.node?] at hs hg ht
    exact .through (h.edges.mem_iff.2 he) hs hg hsk hgk (h.edges.mem_iff.2 ho) hflow hfrom ht htk

/-- Connections of two activities go with their edges, and of the others only the order depends on
that of the edges. -/
theorem connections : d'.connections.Perm d.connections := by
  have hjoins : (d'.connections.filter (·.kind ≠ .startToInflow)).Perm
      (d.connections.filter (·.kind ≠ .startToInflow)) := by
    rw [connections_filter_join, connections_filter_join, funext (joined?_congr h.nodes)]
    exact h.edges.filterMap _
  have hinflows : (d'.connections.filter (·.kind = .startToInflow)).Perm
      (d.connections.filter (·.kind = .startToInflow)) := by
    rw [connections_filter_inflow, connections_filter_inflow]
    refine (keepFirst_perm_iff.2 ?_).map _
    rintro ⟨s, t⟩
    rw [mem_flatMap_passedOn, mem_flatMap_passedOn]
    exact ⟨h.symm.inflow, h.inflow⟩
  have hsplit : ∀ cs : List Connection,
      (cs.filter (·.kind = .startToInflow) ++ cs.filter (·.kind ≠ .startToInflow)).Perm cs := by
    intro cs
    simpa using List.filter_append_perm (fun c => decide (c.kind = .startToInflow)) cs
  exact (hsplit _).symm.trans ((hinflows.append hjoins).trans (hsplit _))

/-- A resource refers to the same entity, if no two have the same normalized name. -/
theorem matchEntity (hdistinct : DistinctEntities d.nodes) {resource entity : String}
    (hm : matchEntity resource (activeEntities d.owners) = some entity) :
    matchEntity resource (activeEntities d'.owners) = some entity := by
  have hdistinct' : DistinctEntities d'.nodes := by rwa [h.nodes]
  rw [matchEntity_eq_some_iff (distinct_active hdistinct)] at hm
  rw [matchEntity_eq_some_iff (distinct_active hdistinct')]
  exact ⟨h.mem_activeEntities hm.1, hm.2⟩

/-- What a rule shows it shows in any order of the edges. -/
theorem shown (hdistinct : DistinctEntities d.nodes) {r : Relationship}
    (hr : Relationship.Shown d d.owners r) : Relationship.Shown d' d'.owners r := by
  cases hr with
  | byDependency he hs ht hdep hsk htk ho hne hact hact' =>
    rw [← h.node?] at hs ht
    rw [← h.owners_get?] at ho
    exact .byDependency (h.edges.mem_iff.2 he) hs ht hdep hsk htk ho hne
      (h.mem_activeEntities hact) (h.mem_activeEntities hact')
  | byFlow he hs ht hflow hsk htk hc hne hact hact' =>
    rw [← h.node?] at hs ht
    rw [← h.owners_get?] at hc
    exact .byFlow (h.edges.mem_iff.2 he) hs ht hflow hsk htk hc hne
      (h.mem_activeEntities hact) (h.mem_activeEntities hact')
  | byResource ha hres ho hm hne =>
    rw [activities, ← h.nodesOfKind] at ha
    rw [← h.owners_get?] at ho
    exact .byResource ha hres ho (h.matchEntity hdistinct hm) hne

theorem relationships (hdistinct : DistinctEntities d.nodes) :
    (d'.relationships d'.owners).Perm (d.relationships d.owners) := by
  have hdistinct' : DistinctEntities d'.nodes := by rwa [h.nodes]
  rw [relationships_eq_keepFirst, relationships_eq_keepFirst, keepFirst_perm_iff]
  intro r
  rw [Relationship.mem_shownPairs, Relationship.mem_shownPairs]
  exact ⟨h.symm.shown hdistinct', h.shown hdistinct⟩

end Reorders

theorem reorders_ofParts (nodes : List Node) {edges edges' : List Edge} (h : edges'.Perm edges) :
    Reorders (ofParts nodes edges) (ofParts nodes edges') where
  nodes := rfl
  edges := h.filter _

/-- In another order of the edges a diagram compiles to a model that differs in the order of lists
only: that of the connections, that of the conditions of an activity and, if the normalized names
of generators differ, that of the relationships. -/
theorem compile_reorder_edges (nodes : List Node) {edges edges' : List Edge}
    (h : edges'.Perm edges) :
    (ofParts nodes edges').compile.resources = (ofParts nodes edges).compile.resources ∧
      List.Forall₂ Activity.SameButOrder (ofParts nodes edges').compile.activities
        (ofParts nodes edges).compile.activities ∧
      (ofParts nodes edges').compile.connections.Perm (ofParts nodes edges).compile.connections ∧
      (DistinctEntities nodes →
        (ofParts nodes edges').compile.relationships.Perm
          (ofParts nodes edges).compile.relationships) := by
  have hr := reorders_ofParts nodes h
  exact ⟨hr.resources, hr.lowerAll, hr.connections, hr.relationships⟩

/-- The activities of two generators are claimed by a third one too, and the activity of a fourth
uses a resource. -/
def claimedTwice (first second resource : String) : List Node :=
  [⟨"g0", .text "generator", "Hall", []⟩, ⟨"g1", .text "generator", first, []⟩,
    ⟨"g2", .text "generator", second, []⟩, ⟨"g3", .text "generator", "Desk", []⟩,
    ⟨"a1", .text "activity", "Serve", []⟩, ⟨"a2", .text "activity", "Rest", []⟩,
    ⟨"a3", .text "activity", "Ask", [(.text "resources", .list [.text resource])]⟩]

/-- Each of the last three generators starts one of the activities. -/
def lastClaims : List Edge := [flowBetween "g1" "a1", flowBetween "g2" "a2", flowBetween "g3" "a3"]

-- the first claim to an activity settles its place, and a later one its owner
example :
    (ofParts (claimedTwice "RSBA" "RS (BA)" "RS(BA)")
        (flowBetween "g0" "a1" :: flowBetween "g0" "a2" :: lastClaims)).compile.relationships =
      [⟨"Desk", "RSBA"⟩] ∧
    (ofParts (claimedTwice "RSBA" "RS (BA)" "RS(BA)")
        (flowBetween "g0" "a2" :: flowBetween "g0" "a1" :: lastClaims)).compile.relationships =
      [⟨"Desk", "RS (BA)"⟩] := by
  decide +kernel

theorem compile_swap_first_claims :
    (flowBetween "g0" "a2" :: flowBetween "g0" "a1" :: lastClaims).Perm
        (flowBetween "g0" "a1" :: flowBetween "g0" "a2" :: lastClaims) ∧
      DistinctEntities (claimedTwice "Clerk" "RS (BA)" "RS(BA)") ∧
      (ofParts (claimedTwice "Clerk" "RS (BA)" "RS(BA)")
          (flowBetween "g0" "a2" :: flowBetween "g0" "a1" :: lastClaims)).compile.relationships.Perm
        (ofParts (claimedTwice "Clerk" "RS (BA)" "RS(BA)")
          (flowBetween "g0" "a1" :: flowBetween "g0" "a2" :: lastClaims)).compile.relationships := by
  have hperm : (flowBetween "g0" "a2" :: flowBetween "g0" "a1" :: lastClaims).Perm
      (flowBetween "g0" "a1" :: flowBetween "g0" "a2" :: lastClaims) := .swap _ _ _
  have hdistinct : DistinctEntities (claimedTwice "Clerk" "RS (BA)" "RS(BA)") := by decide +kernel
  exact ⟨hperm, hdistinct, (compile_reorder_edges _ hperm).2.2.2 hdistinct⟩

end Diagram

end FlowDiagram
