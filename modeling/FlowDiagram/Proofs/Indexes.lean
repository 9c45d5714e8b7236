import FlowDiagram.Proofs.Diagram
import FlowDiagram.Proofs.Grouping

/-! # Indexes agree with plain scans

A diagram is made in one pass over edges.  An edge of which an end names no node is passed over; any
other goes to the end of the kept edges and of the lists under its two ends.  So what the diagram keeps,
and what its indexes give, is what a plain scan of the nodes and edges gives, each in its order, and an
index loses no edge that is kept and holds none twice.
-/

namespace FlowDiagram.Diagram

section Pass

variable {nodes : List Node} {edges : List Edge}

theorem push_get? {key : Edge → String} {m : OrderedMap String (List Edge)}
    (h : ∀ x, (m.get? x).getD [] = edges.filter (key · == x)) (e : Edge) (x : String) :
    ((m.push (key e) e).get? x).getD [] = (edges ++ [e]).filter (key · == x) := by
  rw [OrderedMap.get?_push, List.filter_append]
  by_cases hx : key e = x
  · simp [hx, h]
  · simp [hx, h]

/-- The diagram with one more edge at the end, unless an end of the edge names no node. -/
def withEdge (d : Diagram) (e : Edge) : Diagram :=
  if h : joins d.byId e then
    { d with
      edges := d.edges ++ [e]
      bySource := d.bySource.push e.source e
      byTarget := d.byTarget.push e.target e
      bySource_get? := push_get? d.bySource_get? e
      byTarget_get? := push_get? d.byTarget_get? e
      edges_resolve := by
        intro e' he'
        rcases List.mem_append.1 he' with he' | he'
        · exact d.edges_resolve e' he'
        · rw [List.mem_singleton.1 he']
          simpa [joins] using h }
  else d

theorem ofParts_concat (nodes : List Node) (edges : List Edge) (e : Edge) :
    ofParts nodes (edges ++ [e]) = (ofParts nodes edges).withEdge e := by
  unfold withEdge
  by_cases h : joins (nodesById nodes) e
  · simp [ofParts, h, edgesBy, List.filter_append]
  · simp [ofParts, h, List.filter_append]

/-- The pass goes on from any edges that it has taken before. -/
theorem foldl_withEdge (nodes : List Node) (earlier edges : List Edge) :
    edges.foldl withEdge (ofParts nodes earlier) = ofParts nodes (earlier ++ edges) := by
  induction edges generalizing earlier with
  | nil => rw [List.foldl_nil, List.append_nil]
  | cons e edges ih =>
    rw [List.foldl_cons, ← ofParts_concat, ih, List.append_assoc, List.singleton_append]

theorem joins_eq_decide (nodes : List Node) (e : Edge) :
    joins (nodesById nodes) e =
      decide (e.source ∈ nodes.map (·.id) ∧ e.target ∈ nodes.map (·.id)) := by
  rw [Bool.eq_iff_iff, joins_iff]
  simp

end Pass

section Scans

theorem edgesBy_eq_groupByKey (key : Edge → String) (edges : List Edge) :
    edgesBy key edges = groupByKey (edges.map fun e => (key e, e)) := by
  rw [edgesBy, groupByKey, List.foldl_map]

theorem flatten_values_edgesBy_perm (key : Edge → String) (edges : List Edge) :
    (edgesBy key edges).values.flatten.Perm edges := by
  rw [edgesBy_eq_groupByKey]
  have h := flatten_values_groupByKey_perm (edges.map fun e => (key e, e))
  rw [List.map_map] at h
  simpa [Function.comp_def] using h

open Classical in
/-- Of the lists under the keys, only that under its own key holds an edge, and as often as it occurs. -/
theorem count_filter_key (key : Edge → String) (edges : List Edge) (e : Edge) (x : String) :
    (edges.filter (key · == x)).count e = if key e = x then edges.count e else 0 := by
  by_cases h : key e = x
  · rw [if_pos h]
    apply List.count_filter
    simp [h]
  · rw [if_neg h, List.count_eq_zero, List.mem_filter]
    simp [h]

theorem endpoints_resolved (d : Diagram) :
    d.endpoints.map (fun p => (p.edge, some p.source, some p.target)) =
      d.edges.map fun e => (e, d.node? e.source, d.node? e.target) := by
  calc
    _ = d.endpoints.map fun p => (p.edge, d.node? p.edge.source, d.node? p.edge.target) := by
      apply List.map_congr_left
      intro p hp
      rw [(mem_endpoints.1 hp).2.1, (mem_endpoints.1 hp).2.2]
    _ = (d.endpoints.map (·.edge)).map fun e => (e, d.node? e.source, d.node? e.target) := by
      rw [List.map_map]
      rfl
    _ = _ := by rw [endpoints_map_edge]

end Scans

open Classical in
/-- The diagram of any nodes and edges, ends that name no node, loops, parallel edges and ids that are
given twice included.  It is made in one pass over the edges.  The kept edges are those with an id of a
node at both ends, in order; an id means the first node with it; and the edges that leave or enter an id
are those of the kept ones that do, in order.  So an index holds each kept edge in one list, as often as
it is kept, and each kept edge resolves. -/
theorem indexes_agree_with_scans (nodes : List Node) (edges : List Edge) :
    let d := ofParts nodes edges
    d = edges.foldl withEdge (ofParts nodes []) ∧
    d.edges = edges.filter (fun e =>
      e.source ∈ nodes.map (·.id) ∧ e.target ∈ nodes.map (·.id)) ∧
    (∀ x, d.node? x = nodes.find? (·.id == x) ∧
      d.outgoing x = d.edges.filter (·.source == x) ∧
      d.incoming x = d.edges.filter (·.target == x)) ∧
    (∀ e x, (d.outgoing x).count e = (if e.source = x then d.edges.count e else 0) ∧
      (d.incoming x).count e = if e.target = x then d.edges.count e else 0) ∧
    (d.bySource.values.flatten.Perm d.edges ∧ d.byTarget.values.flatten.Perm d.edges) ∧
    d.endpoints.map (fun p => (p.edge, some p.source, some p.target)) =
      d.edges.map fun e => (e, d.node? e.source, d.node? e.target) := by
  intro d
  refine ⟨(foldl_withEdge nodes [] edges).symm, ?_, ?_, ?_, ?_, endpoints_resolved d⟩
  · apply List.filter_congr
    intro e _
    exact joins_eq_decide nodes e
  · intro x
    exact ⟨d.node?_eq_find? x, d.outgoing_eq_filter x, d.incoming_eq_filter x⟩
  · intro e x
    rw [outgoing_eq_filter, incoming_eq_filter]
    exact ⟨count_filter_key Edge.source d.edges e x, count_filter_key Edge.target d.edges e x⟩
  · exact ⟨flatten_values_edgesBy_perm Edge.source d.edges,
      flatten_values_edgesBy_perm Edge.target d.edges⟩

end FlowDiagram.Diagram
