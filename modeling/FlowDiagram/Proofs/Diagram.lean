import FlowDiagram.Diagram.Basic

/-! # What the indexes of a diagram say

Membership in the lists that a diagram offers, in terms of its nodes and its edges.
-/

namespace FlowDiagram.Diagram

variable {d : Diagram} {id : String} {n : Node} {k : Node.Kind}

theorem node?_eq_some (h : d.node? id = some n) : n ∈ d.nodes ∧ n.id = id := by
  rw [node?_eq_find?] at h
  exact ⟨List.mem_of_find?_eq_some h, by simpa using List.find?_some h⟩

theorem hasKind_iff : d.hasKind id k ↔ ∃ n, d.node? id = some n ∧ n.kind = k := by
  unfold hasKind
  cases d.node? id <;> simp

theorem mem_nodesOfKind : n ∈ d.nodesOfKind k ↔ n ∈ d.nodes ∧ n.kind = k := by
  simp [nodesOfKind]

/-- The node that an id means is drawn. -/
theorem mem_nodesOfKind_of_node? (h : d.node? id = some n) (hk : n.kind = k) :
    n ∈ d.nodesOfKind k :=
  mem_nodesOfKind.2 ⟨(node?_eq_some h).1, hk⟩

/-- An id that means a node of a kind is the id of one that is drawn. -/
theorem exists_of_hasKind (h : d.hasKind id k) : ∃ n ∈ d.nodesOfKind k, n.id = id := by
  obtain ⟨n, hn, hk⟩ := hasKind_iff.1 h
  exact ⟨n, mem_nodesOfKind_of_node? hn hk, (node?_eq_some hn).2⟩

theorem mem_outgoing {e : Edge} : e ∈ d.outgoing id ↔ e ∈ d.edges ∧ e.source = id := by
  rw [outgoing_eq_filter, List.mem_filter, beq_iff_eq]

theorem mem_incoming {e : Edge} : e ∈ d.incoming id ↔ e ∈ d.edges ∧ e.target = id := by
  rw [incoming_eq_filter, List.mem_filter, beq_iff_eq]

section SameNodes

variable {d' : Diagram} (h : d'.nodes = d.nodes)

include h

theorem node?_congr (x : String) : d'.node? x = d.node? x := by
  rw [node?_eq_find?, node?_eq_find?, h]

theorem nodesOfKind_congr (k : Node.Kind) : d'.nodesOfKind k = d.nodesOfKind k := by
  rw [nodesOfKind, nodesOfKind, h]

theorem hasKind_congr (x : String) (k : Node.Kind) : d'.hasKind x k = d.hasKind x k := by
  rw [hasKind, hasKind, node?_congr h]

end SameNodes

/-- An edge with the nodes that its ends mean. -/
def resolve? (d : Diagram) (e : Edge) : Option Endpoints := do
  let source ← d.node? e.source
  let target ← d.node? e.target
  some ⟨e, source, target⟩

theorem endpoints_eq_filterMap (d : Diagram) : d.endpoints = d.edges.filterMap d.resolve? := by
  apply congrArg (fun f => d.edges.filterMap f)
  funext e
  unfold resolve?
  cases d.node? e.source <;> cases d.node? e.target <;> rfl

theorem resolve?_eq_some {e : Edge} {p : Endpoints} :
    d.resolve? e = some p ↔
      p.edge = e ∧ d.node? e.source = some p.source ∧ d.node? e.target = some p.target := by
  obtain ⟨e', s, t⟩ := p
  simp only [resolve?, Option.bind_eq_bind, Option.bind_eq_some_iff, Option.some.injEq,
    Endpoints.mk.injEq]
  constructor
  · rintro ⟨s', hs, t', ht, rfl, rfl, rfl⟩
    exact ⟨rfl, hs, ht⟩
  · rintro ⟨rfl, hs, ht⟩
    exact ⟨s, hs, t, ht, rfl, rfl, rfl⟩

theorem mem_endpoints {p : Endpoints} :
    p ∈ d.endpoints ↔
      p.edge ∈ d.edges ∧ d.node? p.edge.source = some p.source ∧
        d.node? p.edge.target = some p.target := by
  rw [endpoints_eq_filterMap, List.mem_filterMap]
  constructor
  · rintro ⟨e, he, hp⟩
    obtain ⟨rfl, hs, ht⟩ := resolve?_eq_some.1 hp
    exact ⟨he, hs, ht⟩
  · rintro ⟨he, hs, ht⟩
    exact ⟨p.edge, he, resolve?_eq_some.2 ⟨rfl, hs, ht⟩⟩

theorem joins_iff {nodes : List Node} {e : Edge} :
    joins (nodesById nodes) e = true ↔
      (∃ n ∈ nodes, n.id = e.source) ∧ ∃ n ∈ nodes, n.id = e.target := by
  simp [joins, nodesById_get?]

/-- Edges that join no nodes may be left out beforehand. -/
theorem ofParts_filter_joins (nodes : List Node) (edges : List Edge) :
    ofParts nodes (edges.filter (joins (nodesById nodes))) = ofParts nodes edges := by
  simp [ofParts]

/-- A flow edge without a condition. -/
def flowBetween (source target : String) : Edge :=
  ⟨"e", source, target, false, "True", .null, .null, .null⟩

/-- A dependency edge that is attached to no side. -/
def dependencyBetween (source target : String) : Edge :=
  { flowBetween source target with isDependency := true }

end FlowDiagram.Diagram
