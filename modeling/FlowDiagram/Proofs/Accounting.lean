import FlowDiagram.Proofs.Lookups
import FlowDiagram.Proofs.Telling
import Mathlib.Data.List.Forall2

/-! # What is left out is told

Each entry of a graph's lists becomes a part of the diagram or is told as skipped, and each edge that
states a condition gives its activity a condition or is told as ignored.  Nothing is told twice:
what is kept and what is told are together as many as what there was, and what is told is known from
the entries alone, in their order.
-/

namespace FlowDiagram

section Passes

variable {α β : Type}

theorem length_filterMap_add_length_filter (f : α → Option β) (xs : List α) :
    (xs.filterMap f).length + (xs.filter fun x => (f x).isNone).length = xs.length := by
  induction xs with
  | nil => rfl
  | cons x xs ih =>
    cases hx : f x with
    | none =>
      rw [List.filterMap_cons_none hx, List.filter_cons_of_pos (by simp [hx]), List.length_cons,
        List.length_cons, ← ih]
      omega
    | some y =>
      rw [List.filterMap_cons_some hx, List.filter_cons_of_neg (by simp [hx]), List.length_cons,
        List.length_cons, ← ih]
      omega

theorem filterMap_zipIdx_eq_findIdxs (p : α → Bool) (tell : Nat → β) (xs : List α) (first : Nat) :
    (xs.zipIdx first).filterMap (fun (x, index) => if p x then some (tell index) else none) =
      (xs.findIdxs p first).map tell := by
  induction xs generalizing first with
  | nil => rfl
  | cons x xs ih =>
    rw [List.zipIdx_cons, List.filterMap_cons, List.findIdxs_cons, ih]
    cases hx : p x with
    | false => simp [hx]
    | true => simp [hx]

end Passes

/-- An entry of a node is skipped just if it lacks an id. -/
theorem Node.isNone_read? (raw : Value) : (Node.read? raw).isNone = decide (raw.Lacks "id") := by
  rw [Bool.eq_iff_iff, Option.isNone_iff_eq_none, decide_eq_true_iff]
  refine ⟨fun h => ?_, Node.read?_eq_none⟩
  rw [Value.lacks_iff, Value.fieldOrNull]
  unfold Node.read? at h
  split at h
  · next hid => rw [hid, Option.getD_none]
  · next hid => rw [hid, Option.getD_some]
  · cases h

theorem Edge.isNone_read? (raw : Value) :
    (Edge.read? raw).isNone = decide (raw.Lacks "source" ∨ raw.Lacks "target") := by
  rw [Bool.eq_iff_iff, Option.isNone_iff_eq_none, decide_eq_true_iff]
  refine ⟨fun h => ?_, Edge.read?_eq_none⟩
  by_contra hends
  -- With both ends there the fields that must be there are, so that reading gives an edge.
  have hread := Edge.checkedRead?_eq raw
  rw [h, Edge.checkedRead?,
    if_neg (by simpa [Value.lacks_iff, Value.isNull_iff] using hends)] at hread
  cases hedge : Edge.read raw with
  | error m =>
    rw [hedge] at hread
    cases hread
  | ok e =>
    rw [hedge] at hread
    cases hread

/-- The edge states a condition; an empty text and `True` state none. -/
def Edge.StatesCondition (e : Edge) : Prop := e.condition ≠ "" ∧ e.condition ≠ "True"

instance (e : Edge) : Decidable e.StatesCondition := inferInstanceAs (Decidable (_ ∧ _))

namespace Diagram

section Reading

variable {α : Type} (read? : Value → Option α) (skip : Nat → Skip) (raws : List Value)

theorem readEntries_skips :
    (readEntries read? skip raws).2 = (raws.findIdxs fun raw => (read? raw).isNone).map skip :=
  filterMap_zipIdx_eq_findIdxs (fun raw => (read? raw).isNone) skip raws 0

/-- Every entry is read or skipped, and none is both. -/
theorem length_readEntries :
    (raws.filterMap read?).length + (readEntries read? skip raws).2.length = raws.length := by
  rw [readEntries_skips, List.length_map, List.length_findIdxs, List.countP_eq_length_filter]
  exact length_filterMap_add_length_filter read? raws

end Reading

theorem danglingEdges_eq_filter (nodes : List Node) (edges : List Edge) :
    danglingEdges nodes edges = edges.filter fun e =>
      ¬((∃ n ∈ nodes, n.id = e.source) ∧ ∃ n ∈ nodes, n.id = e.target) := by
  refine List.filter_congr fun e _ => ?_
  rw [Bool.eq_iff_iff, Bool.not_eq_true', Bool.eq_false_iff, Ne, joins_iff, decide_eq_true_iff]

theorem length_danglingEdges (nodes : List Node) (edges : List Edge) :
    (ofParts nodes edges).edges.length + (danglingEdges nodes edges).length = edges.length :=
  (List.length_eq_length_filter_add _).symm

theorem conditionedEdges_eq_filter (d : Diagram) (n : Node) :
    d.conditionedEdges n = d.edges.filter fun e => e.target = n.id ∧ e.StatesCondition := by
  rw [conditionedEdges, incoming_eq_filter, List.filter_filter]
  refine List.filter_congr fun e _ => ?_
  rw [Bool.eq_iff_iff, decide_eq_true_iff, Bool.and_eq_true, Bool.and_eq_true, beq_iff_eq,
    decide_eq_true_iff, decide_eq_true_iff, and_comm]
  rfl

theorem length_conditions (d : Diagram) (n : Node) :
    (d.conditions n).length + (d.ignoredConditions n).length = (d.conditionedEdges n).length := by
  rw [ignoredConditions_eq_map, List.length_map]
  exact length_filterMap_add_length_filter _ _

/-- A graph with its two lists is read, and what is told of it is known from the entries. -/
theorem ofGraph_eq_ok {parts : List (Value × Value)} {nodes edges : List Value}
    (hnodes : Value.entry? "nodes" parts = some (.list nodes))
    (hedges : Value.entry? "edges" parts = some (.list edges)) :
    ofGraph (.mapping parts) =
      .ok (ofParts (nodes.filterMap Node.read?) (edges.filterMap Edge.read?),
        (readEntries Node.read? .nodeWithoutId nodes).2 ++
          (readEntries Edge.read? .edgeWithoutEnds edges).2 ++
          (danglingEdges (nodes.filterMap Node.read?) (edges.filterMap Edge.read?)).map
            fun e => .danglingEdge e.id) := by
  simp only [ofGraph, Value.fieldOrNull, Value.field?, hnodes, hedges, Option.getD_some]
  rfl

/-- Reading a graph tells each entry that it leaves out once, and so does lowering with each
condition that it leaves out. -/
theorem left_out_is_told :
    (∀ (parts : List (Value × Value)) (nodes edges : List Value),
      Value.entry? "nodes" parts = some (.list nodes) →
      Value.entry? "edges" parts = some (.list edges) →
      ∃ d skips, ofGraph (.mapping parts) = .ok (d, skips) ∧
        skips.length + d.nodes.length + d.edges.length = nodes.length + edges.length ∧
        skips =
          (nodes.findIdxs fun raw => raw.Lacks "id").map .nodeWithoutId ++
          (edges.findIdxs fun raw => raw.Lacks "source" ∨ raw.Lacks "target").map .edgeWithoutEnds ++
          ((edges.filterMap Edge.read?).filter fun e =>
            ¬((∃ n ∈ d.nodes, n.id = e.source) ∧ ∃ n ∈ d.nodes, n.id = e.target)).map
            (fun e => .danglingEdge e.id) ∧
        ∀ (m : Type → Type) [Monad m] [LawfulMonad m] (tell : String → m PUnit),
          Tells tell (tellingGraph tell (.mapping parts)) (skips.map Skip.message) (.ok d)) ∧
    ∀ (d : Diagram) (owners : OrderedMap String String),
      d.allIgnoredConditions = d.activities.flatMap d.ignoredConditions ∧
      (∀ n, d.ignoredConditions n =
        ((d.edges.filter fun e => e.target = n.id ∧ e.StatesCondition).filter fun e =>
          (Condition.parse? e.condition).isNone).map fun e => ⟨n.name, e.condition, e.id⟩) ∧
      List.Forall₂ (fun n a => a.conditions.length + (d.ignoredConditions n).length =
          (d.edges.filter fun e => e.target = n.id ∧ e.StatesCondition).length)
        d.activities (d.lowerAll owners) ∧
      ∀ (m : Type → Type) [Monad m] [LawfulMonad m] (tell : String → m PUnit),
        Tells tell (d.activities.mapM (d.tellingLower tell owners))
          (d.allIgnoredConditions.map IgnoredCondition.message) (d.lowerAll owners) := by
  constructor
  · intro parts nodes edges hnodes hedges
    have hread := ofGraph_eq_ok hnodes hedges
    refine ⟨_, _, hread, ?_, ?_, ?_⟩
    · have hn := length_readEntries Node.read? .nodeWithoutId nodes
      have he := length_readEntries Edge.read? .edgeWithoutEnds edges
      have hd := length_danglingEdges (nodes.filterMap Node.read?) (edges.filterMap Edge.read?)
      have hkept : (ofParts (nodes.filterMap Node.read?) (edges.filterMap Edge.read?)).nodes.length =
        (nodes.filterMap Node.read?).length := rfl
      rw [List.length_append, List.length_append, List.length_map]
      omega
    · simp only [readEntries_skips, danglingEdges_eq_filter, Node.isNone_read?, Edge.isNone_read?]
      rfl
    · intro m _ _ tell
      have hgraph := tells_graph tell (.mapping parts)
      rwa [hread] at hgraph
  · intro d owners
    refine ⟨rfl, fun n => ?_, ?_, fun m _ _ tell => tells_lowerAll tell d owners⟩
    · rw [ignoredConditions_eq_map, conditionedEdges_eq_filter]
    · rw [lowerAll, List.forall₂_map_right_iff, List.forall₂_same]
      intro n _
      rw [← conditionedEdges_eq_filter]
      exact length_conditions d n

/-- The fields of a graph with entries of every sort that is skipped. -/
def numberedParts : List (Value × Value) :=
  [(.text "edges", .list numberedEdgesAndMore), (.text "nodes", .list numberedNodesAndMore)]

theorem numbered_left_out :
    Value.entry? "nodes" numberedParts = some (.list numberedNodesAndMore) ∧
      Value.entry? "edges" numberedParts = some (.list numberedEdgesAndMore) ∧
      ∃ d, ofGraph (.mapping numberedParts) =
          .ok (d, [.nodeWithoutId 0, .nodeWithoutId 2, .nodeWithoutId 4, .edgeWithoutEnds 0,
            .edgeWithoutEnds 1, .edgeWithoutEnds 4, .danglingEdge "", .danglingEdge ""]) ∧
        8 + d.nodes.length + d.edges.length =
          numberedNodesAndMore.length + numberedEdgesAndMore.length := by
  have hnodes : Value.entry? "nodes" numberedParts = some (.list numberedNodesAndMore) := rfl
  have hedges : Value.entry? "edges" numberedParts = some (.list numberedEdgesAndMore) := rfl
  obtain ⟨d, skips, hread, hcount, -⟩ := left_out_is_told.1 _ _ _ hnodes hedges
  have hskips : (ofGraph (.mapping numberedParts)).map Prod.snd =
      .ok [.nodeWithoutId 0, .nodeWithoutId 2, .nodeWithoutId 4, .edgeWithoutEnds 0,
        .edgeWithoutEnds 1, .edgeWithoutEnds 4, .danglingEdge "", .danglingEdge ""] := by
    decide +kernel
  rw [hread] at hskips
  cases hskips
  exact ⟨hnodes, hedges, d, hread, hcount⟩

end Diagram

end FlowDiagram
