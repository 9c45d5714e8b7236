import FlowDiagram.Model.Compile
import FlowDiagram.Proofs.Diagram
import Mathlib.Logic.Basic
import Mathlib.Tactic.ByContra

/-! # No lookup fails

Compiling takes it for granted that the ends of an edge mean nodes, and that an entry which is read
as an edge has two ends.  Here compilation is written once more with every such lookup checked, so
that one which finds nothing fails.  None ever does: an entry without two ends is skipped before it
is read, an edge with an end that means nothing is dropped before anything looks at it, and so data
fails to compile only if it has not the shape of a project.
-/

namespace FlowDiagram

/-- Why a compilation that checks every lookup has no result. -/
inductive CompileFault where
  | noDiagram (e : DiagramError)
  | missingField (m : MissingField)
  | unknownNode (id : String)
deriving DecidableEq, Repr

/-- What is wrong with data that is not the data of a project. -/
inductive Misshapen : Value → Prop where
  | notMapping {v : Value} : (∀ fields, v ≠ .mapping fields) → Misshapen v
  | noGraph {fields : List (Value × Value)} :
      Value.entry? "json" fields = none → Misshapen (.mapping fields)
  | graphNotMapping {fields : List (Value × Value)} {graph : Value} :
      Value.entry? "json" fields = some graph → (∀ parts, graph ≠ .mapping parts) →
      Misshapen (.mapping fields)
  | noNodes {fields parts : List (Value × Value)} :
      Value.entry? "json" fields = some (.mapping parts) →
      (∀ nodes, Value.entry? "nodes" parts ≠ some (.list nodes)) → Misshapen (.mapping fields)
  | noEdges {fields parts : List (Value × Value)} :
      Value.entry? "json" fields = some (.mapping parts) →
      (∀ edges, Value.entry? "edges" parts ≠ some (.list edges)) → Misshapen (.mapping fields)

/-- The edge that an entry describes; none unless both ends are there.  Then the ends are read as
fields that must be there. -/
def Edge.checkedRead? (raw : Value) : Except CompileFault (Option Edge) :=
  if (raw.fieldOrNull "source").isNull || (raw.fieldOrNull "target").isNull then .ok none
  else ((Edge.read raw).map some).mapError .missingField

namespace Diagram

/-- The diagram of a graph's data, with every end of an edge read as a field that must be there. -/
def checkedOfGraph (graph : Value) : Except CompileFault Diagram :=
  match graph with
  | .mapping _ =>
    match graph.fieldOrNull "nodes", graph.fieldOrNull "edges" with
    | .list rawNodes, .list rawEdges => do
      let edges ← rawEdges.filterMapM Edge.checkedRead?
      return ofParts (rawNodes.filterMap Node.read?) edges
    | _, _ => .error (.noDiagram .noLists)
  | v => .error (.noDiagram (.notMapping v.typeName))

def checkedOfProject (project : Value) : Except CompileFault Diagram :=
  match project.field? "json" with
  | some graph => checkedOfGraph graph
  | none => .error (.noDiagram .noGraph)

/-- The node that an id must mean. -/
def nodeAt (d : Diagram) (id : String) : Except CompileFault Node :=
  match d.node? id with
  | some n => .ok n
  | none => .error (.unknownNode id)

/-- An edge with the nodes that its ends must mean. -/
def checkedResolve (d : Diagram) (e : Edge) : Except CompileFault Endpoints := do
  return ⟨e, ← d.nodeAt e.source, ← d.nodeAt e.target⟩

def checkedEndpoints (d : Diagram) : Except CompileFault (List Endpoints) :=
  d.edges.mapM d.checkedResolve

def checkedIsInitial (d : Diagram) (n : Node) : Except CompileFault Bool :=
  (d.incoming n.id).anyM fun e => do return (← d.nodeAt e.source).kind = .generator

def checkedLower (d : Diagram) (owners : OrderedMap String String) (n : Node) :
    Except CompileFault Activity := do
  return {
    id := n.name
    handlerType := ownerOf owners n.id
    initial := ← d.checkedIsInitial n
    conditions := d.conditions n
    requirements := n.requirements }

def checkedStartedBy (d : Diagram) (generator : String) : Except CompileFault (List String) :=
  (d.outgoing generator).filterMapM fun e => do
    if e.isDependency then return none
    let started ← d.nodeAt e.target
    return if started.kind = .activity then some started.name else none

def Found.checkedAddEdge (d : Diagram) (f : Found) (p : Endpoints) : Except CompileFault Found :=
  match p.source.kind, p.target.kind with
  | .activity, .generator => do
    let started ← d.checkedStartedBy p.target.id
    return started.foldl (fun f name => f.addInflow p.source.name name) f
  | .activity, .activity =>
    let kind := if p.edge.isDependency then p.edge.dependencyKind else .flow
    .ok (f.add ⟨kind, p.source.name, p.target.name⟩)
  | _, _ => .ok f

def checkedConnections (d : Diagram) : Except CompileFault (List Connection) := do
  let found ← (← d.checkedEndpoints).foldlM (Found.checkedAddEdge d) ⟨[], []⟩
  return found.connections

def checkedRelationships (d : Diagram) (owners : OrderedMap String String) :
    Except CompileFault (List Relationship) := do
  let active := activeEntities owners
  let shownByEdges := (← d.checkedEndpoints).foldl (fun found p =>
    (Relationship.ofEdge? owners active p).elim found (Relationship.addNew found)) []
  return d.activities.foldl (fun found a =>
    (Relationship.ofResources owners active a).foldl Relationship.addNew found) shownByEdges

/-- The model of a diagram, with every lookup checked. -/
def checkedCompile (d : Diagram) : Except CompileFault Model := do
  let owners := d.owners
  return {
    relationships := ← d.checkedRelationships owners
    resources := d.resources
    activities := ← d.activities.mapM (d.checkedLower owners)
    connections := ← d.checkedConnections }

end Diagram

/-- The model of a project's data, with every lookup checked. -/
def checkedCompileProject (project : Value) : Except CompileFault Model := do
  (← Diagram.checkedOfProject project).checkedCompile

section Traversal

variable {ε : Type} {α β σ : Type}

theorem mapM_eq_pure {m : Type → Type} [Monad m] [LawfulMonad m] {f : α → m β} {g : α → β}
    {xs : List α} (h : ∀ x ∈ xs, f x = pure (g x)) : xs.mapM f = pure (xs.map g) := by
  induction xs with
  | nil => rw [List.mapM_nil, List.map_nil]
  | cons x xs ih =>
    have ih := ih fun y hy => h y (List.mem_cons_of_mem x hy)
    rw [List.mapM_cons, h x List.mem_cons_self, pure_bind, ih, pure_bind, List.map_cons]

theorem mapM_eq_ok {f : α → Except ε β} {g : α → β} {xs : List α}
    (h : ∀ x ∈ xs, f x = .ok (g x)) : xs.mapM f = .ok (xs.map g) :=
  mapM_eq_pure h

theorem filterMapM_eq_ok {f : α → Except ε (Option β)} {g : α → Option β} {xs : List α}
    (h : ∀ x ∈ xs, f x = .ok (g x)) : xs.filterMapM f = .ok (xs.filterMap g) := by
  induction xs with
  | nil => rfl
  | cons x xs ih =>
    rw [List.filterMapM_cons, h x (by simp), ih fun y hy => h y (by simp [hy]),
      List.filterMap_cons]
    cases g x <;> rfl

theorem anyM_eq_ok {f : α → Except ε Bool} {g : α → Bool} {xs : List α}
    (h : ∀ x ∈ xs, f x = .ok (g x)) : xs.anyM f = .ok (xs.any g) := by
  induction xs with
  | nil => rfl
  | cons x xs ih =>
    rw [List.anyM_cons, h x (by simp), ih fun y hy => h y (by simp [hy]), List.any_cons]
    cases g x <;> rfl

theorem foldlM_eq_ok {f : σ → α → Except ε σ} {g : σ → α → σ} {xs : List α}
    (h : ∀ s, ∀ x ∈ xs, f s x = .ok (g s x)) (s : σ) : xs.foldlM f s = .ok (xs.foldl g s) := by
  induction xs generalizing s with
  | nil => rfl
  | cons x xs ih =>
    rw [List.foldlM_cons, h s x (by simp)]
    exact ih (fun s y hy => h s y (by simp [hy])) (g s x)

end Traversal

/-- An entry that is not skipped has both ends. -/
theorem Edge.checkedRead?_eq (raw : Value) : Edge.checkedRead? raw = .ok (Edge.read? raw) := by
  unfold checkedRead? read?
  split
  · rfl
  · next hends =>
    simp only [Bool.or_eq_true, not_or, Value.fieldOrNull] at hends
    obtain ⟨hsource, htarget⟩ := hends
    cases hs : raw.field? "source" with
    | none => simp [hs, Value.isNull] at hsource
    | some source =>
      cases ht : raw.field? "target" with
      | none => simp [ht, Value.isNull] at htarget
      | some target =>
        simp only [read, Value.require, hs, ht]
        rfl

namespace Diagram

variable {d : Diagram} {id : String} {n : Node}

theorem nodeAt_eq_ok (h : d.node? id = some n) : d.nodeAt id = .ok n := by
  rw [nodeAt, h]

/-- Both ends of an edge of a diagram mean nodes. -/
theorem resolve?_isSome {e : Edge} (he : e ∈ d.edges) : ∃ p, d.resolve? e = some p := by
  obtain ⟨hs, ht⟩ := d.edges_resolve e he
  obtain ⟨source, hs⟩ := Option.isSome_iff_exists.1 hs
  obtain ⟨target, ht⟩ := Option.isSome_iff_exists.1 ht
  exact ⟨⟨e, source, target⟩, resolve?_eq_some.2 ⟨rfl, hs, ht⟩⟩

theorem checkedOfGraph_eq (graph : Value) :
    checkedOfGraph graph = ((ofGraph graph).map Prod.fst).mapError .noDiagram := by
  cases graph with
  | mapping parts =>
    unfold checkedOfGraph ofGraph
    generalize (Value.mapping parts).fieldOrNull "nodes" = nodes
    generalize (Value.mapping parts).fieldOrNull "edges" = edges
    cases nodes with
    | list rawNodes =>
      cases edges with
      | list rawEdges =>
        simp only [filterMapM_eq_ok fun raw _ => Edge.checkedRead?_eq raw]
        rfl
      | _ => rfl
    | _ => rfl
  | _ => rfl

theorem checkedOfProject_eq (project : Value) :
    checkedOfProject project = ((ofProject project).map Prod.fst).mapError .noDiagram := by
  unfold checkedOfProject ofProject
  cases project.field? "json" with
  | none => rfl
  | some graph => exact checkedOfGraph_eq graph

theorem checkedEndpoints_eq (d : Diagram) : d.checkedEndpoints = .ok d.endpoints := by
  have hends : ∀ p ∈ d.endpoints, (d.checkedResolve ∘ Endpoints.edge) p = .ok (id p) := by
    intro p hp
    obtain ⟨-, hs, ht⟩ := mem_endpoints.1 hp
    rw [Function.comp_apply, checkedResolve, nodeAt_eq_ok hs, nodeAt_eq_ok ht]
    rfl
  rw [checkedEndpoints, ← d.endpoints_map_edge, List.mapM_map, mapM_eq_ok hends, List.map_id]

theorem checkedIsInitial_eq (d : Diagram) (n : Node) :
    d.checkedIsInitial n = .ok (d.isInitial n) := by
  refine anyM_eq_ok fun e he => ?_
  rw [incoming_eq_filter, List.mem_filter] at he
  obtain ⟨p, hp⟩ := resolve?_isSome he.1
  obtain ⟨-, hs, -⟩ := resolve?_eq_some.1 hp
  simp only [nodeAt_eq_ok hs, hasKind, hs]
  rfl

theorem checkedLower_eq (d : Diagram) (owners : OrderedMap String String) (n : Node) :
    d.checkedLower owners n = .ok (d.lower owners n) := by
  rw [checkedLower, checkedIsInitial_eq]
  rfl

theorem checkedStartedBy_eq (d : Diagram) (generator : String) :
    d.checkedStartedBy generator = .ok (d.startedBy generator) := by
  refine filterMapM_eq_ok fun e he => ?_
  obtain ⟨p, hp⟩ := resolve?_isSome (mem_outgoing.1 he).1
  obtain ⟨-, -, ht⟩ := resolve?_eq_some.1 hp
  cases e.isDependency with
  | true => rfl
  | false =>
    simp only [nodeAt_eq_ok ht, ht]
    rfl

theorem Found.checkedAddEdge_eq (f : Found) (p : Endpoints) :
    f.checkedAddEdge d p = .ok (f.addEdge d p) := by
  unfold checkedAddEdge addEdge
  cases p.source.kind with
  | activity =>
    cases p.target.kind with
    | generator =>
      simp only [checkedStartedBy_eq]
      rfl
    | activity => rfl
    | terminator => rfl
    | other => rfl
  | generator => rfl
  | terminator => rfl
  | other => rfl

theorem checkedConnections_eq (d : Diagram) : d.checkedConnections = .ok d.connections := by
  rw [checkedConnections, checkedEndpoints_eq]
  change (d.endpoints.foldlM (Found.checkedAddEdge d) ⟨[], []⟩ >>= _) = _
  rw [foldlM_eq_ok fun f p _ => f.checkedAddEdge_eq p]
  rfl

theorem checkedRelationships_eq (d : Diagram) (owners : OrderedMap String String) :
    d.checkedRelationships owners = .ok (d.relationships owners) := by
  rw [checkedRelationships, checkedEndpoints_eq]
  rfl

theorem checkedCompile_eq (d : Diagram) : d.checkedCompile = .ok d.compile := by
  simp only [checkedCompile, checkedRelationships_eq, checkedConnections_eq,
    mapM_eq_ok fun n _ => d.checkedLower_eq d.owners n]
  rfl

end Diagram

/-- Checking the lookups changes nothing. -/
theorem checkedCompileProject_eq (project : Value) :
    checkedCompileProject project = (compileProject project).mapError .noDiagram := by
  rw [checkedCompileProject, Diagram.checkedOfProject_eq, compileProject]
  cases Diagram.ofProject project with
  | error e => rfl
  | ok r => exact r.1.checkedCompile_eq

/-- Data that is not misshapen holds a graph with two lists. -/
theorem not_misshapen_iff {project : Value} :
    ¬Misshapen project ↔
      ∃ fields, project = .mapping fields ∧
        ∃ parts, Value.entry? "json" fields = some (.mapping parts) ∧
          (∃ nodes, Value.entry? "nodes" parts = some (.list nodes)) ∧
            ∃ edges, Value.entry? "edges" parts = some (.list edges) := by
  constructor
  · intro h
    cases project with
    | mapping fields =>
      cases hgraph : Value.entry? "json" fields with
      | none => exact (h (.noGraph hgraph)).elim
      | some graph =>
        cases graph with
        | mapping parts =>
          refine ⟨fields, rfl, parts, hgraph, ?_, ?_⟩
          · by_contra hnodes
            exact h (.noNodes hgraph (not_exists.1 hnodes))
          · by_contra hedges
            exact h (.noEdges hgraph (not_exists.1 hedges))
        | _ => exact (h (.graphNotMapping hgraph (by simp))).elim
    | _ => exact (h (.notMapping (by simp))).elim
  · rintro ⟨fields, rfl, parts, hgraph, ⟨nodes, hnodes⟩, edges, hedges⟩ h
    cases h with
    | notMapping hv => exact hv fields rfl
    | noGraph hnone =>
      rw [hgraph] at hnone
      cases hnone
    | graphNotMapping hgraph' hv =>
      rw [hgraph] at hgraph'
      cases hgraph'
      exact hv parts rfl
    | noNodes hgraph' hnone =>
      rw [hgraph] at hgraph'
      cases hgraph'
      exact hnone nodes hnodes
    | noEdges hgraph' hnone =>
      rw [hgraph] at hgraph'
      cases hgraph'
      exact hnone edges hedges

theorem Value.fieldOrNull_eq_list {v : Value} {name : String} {items : List Value} :
    v.fieldOrNull name = .list items ↔ v.field? name = some (.list items) := by
  unfold fieldOrNull
  cases v.field? name <;> simp

theorem Diagram.ofGraph_isOk_iff {graph : Value} :
    (∃ r, ofGraph graph = .ok r) ↔
      ∃ parts, graph = .mapping parts ∧
        (∃ nodes, Value.entry? "nodes" parts = some (.list nodes)) ∧
          ∃ edges, Value.entry? "edges" parts = some (.list edges) := by
  cases graph with
  | mapping parts =>
    unfold ofGraph
    simp only
    split
    · next hnodes hedges =>
      rw [Value.fieldOrNull_eq_list] at hnodes hedges
      exact iff_of_true ⟨_, rfl⟩ ⟨parts, rfl, ⟨_, hnodes⟩, ⟨_, hedges⟩⟩
    · next hlists =>
      refine iff_of_false (by rintro ⟨r, ⟨⟩⟩) ?_
      rintro ⟨parts, ⟨⟩, ⟨nodes, hnodes⟩, edges, hedges⟩
      exact hlists nodes edges (Value.fieldOrNull_eq_list.2 hnodes)
        (Value.fieldOrNull_eq_list.2 hedges)
  | _ => simp [ofGraph]

/-- Data compiles exactly if it has the shape of a project. -/
theorem compileProject_isOk_iff {project : Value} :
    (∃ m, compileProject project = .ok m) ↔ ¬Misshapen project := by
  have hread : (∃ m, compileProject project = .ok m) ↔ ∃ r, Diagram.ofProject project = .ok r := by
    unfold compileProject
    cases Diagram.ofProject project <;> simp [Except.map]
  rw [hread, not_misshapen_iff]
  cases project with
  | mapping fields =>
    cases hgraph : Value.entry? "json" fields with
    | none => simp [Diagram.ofProject, Value.field?, hgraph]
    | some graph =>
      simp only [Diagram.ofProject, Value.field?, hgraph, Diagram.ofGraph_isOk_iff]
      simp [hgraph]
  | _ => simp [Diagram.ofProject, Value.field?]

/-- Whatever the entries of a project hold, compiling it finds all that it looks up.  So the one
fault is data that has not the shape of a project, and any other data has a model. -/
theorem checkedCompileProject_fails_iff (project : Value) :
    checkedCompileProject project = (compileProject project).mapError .noDiagram ∧
      ((∃ e, checkedCompileProject project = .error (.noDiagram e)) ↔ Misshapen project) ∧
      ((∃ m, checkedCompileProject project = .ok m) ↔ ¬Misshapen project) := by
  refine ⟨checkedCompileProject_eq project, ?_, ?_⟩
  · rw [← not_iff_not, ← compileProject_isOk_iff, checkedCompileProject_eq]
    cases compileProject project <;> simp [Except.mapError]
  · rw [← compileProject_isOk_iff, checkedCompileProject_eq]
    cases compileProject project <;> simp [Except.mapError]

end FlowDiagram
