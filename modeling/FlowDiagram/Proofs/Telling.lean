import FlowDiagram.Model.Compile
import FlowDiagram.Proofs.Skipping
import Mathlib.Data.List.Basic

/-! # Stages that tell as they go

Compiling is a function of the data, and what there is to tell is known beside it.  Here the stages
are written once more as passes that tell each entry, edge or condition when they come to it, by
whatever means they are given, and go on.  They tell the same in the same order and end in the same
model, so what telling does cannot change the model.
-/

namespace FlowDiagram

variable {m : Type → Type} [Monad m] {τ α β : Type}

/-- The work tells some things in order, and then it has a result. -/
def Tells (tell : τ → m PUnit) (work : m α) (told : List τ) (a : α) : Prop :=
  work = do
    forM told tell
    return a

/-- What items give, where an item that gives nothing is told. -/
def keepOrTell (tell : String → m PUnit) (give? : α → Option β) (message : α → String)
    (xs : List α) : m (List β) :=
  xs.filterMapM fun x =>
    match give? x with
    | some y => return some y
    | none => do
      tell (message x)
      return none

namespace Diagram

/-- The parts that can be read from a list of entries. -/
def tellingEntries (tell : String → m PUnit) (read? : Value → Option α) (skip : Nat → Skip)
    (raws : List Value) : m (List α) :=
  keepOrTell tell (fun raw => read? raw.1) (fun raw => (skip raw.2).message) raws.zipIdx

/-- The diagram of a list of nodes and those of the edges that join them. -/
def tellingParts (tell : String → m PUnit) (nodes : List Node) (edges : List Edge) : m Diagram := do
  let kept ← keepOrTell tell (Option.guard (joins (nodesById nodes)))
    (fun e => (Skip.danglingEdge e.id).message) edges
  return ofParts nodes kept

/-- The diagram of a graph's data. -/
def tellingGraph (tell : String → m PUnit) (graph : Value) : m (Except DiagramError Diagram) :=
  match graph with
  | .mapping _ =>
    match graph.fieldOrNull "nodes", graph.fieldOrNull "edges" with
    | .list rawNodes, .list rawEdges => do
      let nodes ← tellingEntries tell Node.read? .nodeWithoutId rawNodes
      let edges ← tellingEntries tell Edge.read? .edgeWithoutEnds rawEdges
      return .ok (← tellingParts tell nodes edges)
    | _, _ => return .error .noLists
  | v => return .error (.notMapping v.typeName)

/-- The record of an activity. -/
def tellingLower (tell : String → m PUnit) (d : Diagram) (owners : OrderedMap String String)
    (n : Node) : m Activity := do
  let conditions ← keepOrTell tell (fun e => Condition.parse? e.condition)
    (fun e => IgnoredCondition.message ⟨n.name, e.condition, e.id⟩) (d.conditionedEdges n)
  return ⟨n.name, ownerOf owners n.id, d.isInitial n, conditions, n.requirements⟩

/-- The model of a diagram. -/
def tellingCompile (tell : Notice → m PUnit) (d : Diagram) : m Model := do
  let owners := d.owners
  let relationships := d.relationships owners
  let resources := d.resources
  let activities ← d.activities.mapM (d.tellingLower (fun s => tell ⟨.activities, s⟩) owners)
  let connections := d.connections
  tell ⟨.compile, Text.decimal activities.length ++ " activities, " ++ Text.decimal owners.size ++
    " handled, " ++ Text.decimal connections.length ++ " connections"⟩
  return ⟨relationships, resources, activities, connections⟩

end Diagram

/-- The model of a project's data. -/
def tellingCompileProject (tell : Notice → m PUnit) (project : Value) :
    m (Except DiagramError Model) :=
  match project.field? "json" with
  | none => return .error .noGraph
  | some graph => do
    match ← Diagram.tellingGraph (fun s => tell ⟨.graph, s⟩) graph with
    | .error e => return .error e
    | .ok d => return .ok (← d.tellingCompile tell)

variable [LawfulMonad m]

/-- What is told in a loop is told in order. -/
theorem forIn_eq_forM (tell : τ → m PUnit) (told : List τ) :
    (forIn told PUnit.unit fun t _ => do
      tell t
      return ForInStep.yield PUnit.unit) = forM told tell := by
  induction told with
  | nil => rfl
  | cons t told ih =>
    rw [List.forIn_cons, List.forM_cons, ← ih]
    simp

namespace Tells

variable {tell : τ → m PUnit} {told told' : List τ} {a : α} {b : β}

theorem pure (tell : τ → m PUnit) (a : α) : Tells tell (pure a) [] a := by
  simp [Tells]

theorem one (tell : τ → m PUnit) (t : τ) : Tells tell (tell t) [t] ⟨⟩ := by
  simp [Tells]

theorem bind {work : m α} {f : α → m β} (h : Tells tell work told a)
    (hf : Tells tell (f a) told' b) : Tells tell (work >>= f) (told ++ told') b := by
  rw [Tells] at h hf ⊢
  simp [h, hf]

theorem thenReturn {work : m α} (h : Tells tell work told a) (f : α → β) :
    Tells tell (do return f (← work)) told (f a) := by
  have hend : Tells tell (do return f (← work)) (told ++ []) (f a) := h.bind (.pure tell (f a))
  rwa [List.append_nil] at hend

theorem through {σ : Type} {told : List σ} {work : m α} (f : σ → τ)
    (h : Tells (fun s => tell (f s)) work told a) : Tells tell work (told.map f) a := by
  rw [Tells] at h ⊢
  rw [h, List.forM_map]

/-- A pass over items tells what it tells for each of them. -/
theorem mapM {f : α → m β} {g : α → β} {told : α → List τ} {xs : List α}
    (h : ∀ x ∈ xs, Tells tell (f x) (told x) (g x)) :
    Tells tell (xs.mapM f) (xs.flatMap told) (xs.map g) := by
  induction xs with
  | nil => exact .pure tell []
  | cons x xs ih =>
    have ih := ih fun y hy => h y (by simp [hy])
    rw [List.mapM_cons]
    exact (h x (by simp)).bind (ih.thenReturn (g x :: ·))

theorem keepOrTell (tell : String → m PUnit) (give? : α → Option β) (message : α → String)
    (xs : List α) :
    Tells tell (keepOrTell tell give? message xs)
      ((xs.filter fun x => (give? x).isNone).map message) (xs.filterMap give?) := by
  induction xs with
  | nil => exact .pure tell []
  | cons x xs ih =>
    rw [Tells, FlowDiagram.keepOrTell] at ih
    rw [Tells, FlowDiagram.keepOrTell, List.filterMapM_cons, ih]
    cases hx : give? x with
    | none => simp [hx]
    | some y => simp [hx]

end Tells

namespace Diagram

variable (tell : String → m PUnit)

theorem tells_entries (read? : Value → Option α) (skip : Nat → Skip) (raws : List Value) :
    Tells tell (tellingEntries tell read? skip raws)
      ((readEntries read? skip raws).2.map Skip.message) (raws.filterMap read?) := by
  have hread : raws.zipIdx.filterMap (fun raw => read? raw.1) = raws.filterMap read? := by
    have hmap := List.filterMap_map (f := Prod.fst) (g := read?) (l := raws.zipIdx)
    rw [List.zipIdx_map_fst] at hmap
    exact hmap.symm
  have hskips : (readEntries read? skip raws).2.map Skip.message =
      (raws.zipIdx.filter fun raw => (read? raw.1).isNone).map fun raw => (skip raw.2).message := by
    rw [readEntries, List.map_filterMap, ← List.filterMap_eq_map, List.filterMap_filter]
    refine List.filterMap_congr ?_
    rintro ⟨raw, index⟩ -
    cases h : read? raw <;> simp [h]
  rw [hskips, ← hread]
  exact .keepOrTell tell _ _ _

theorem tells_parts (nodes : List Node) (edges : List Edge) :
    Tells tell (tellingParts tell nodes edges)
      ((danglingEdges nodes edges).map fun e => (Skip.danglingEdge e.id).message)
      (ofParts nodes edges) := by
  have hdangling : danglingEdges nodes edges =
      edges.filter fun e => (Option.guard (joins (nodesById nodes)) e).isNone := by
    refine List.filter_congr fun e _ => ?_
    cases h : joins (nodesById nodes) e <;> simp [Option.guard, h]
  have hkept := Tells.keepOrTell tell (Option.guard (joins (nodesById nodes)))
    (fun e => (Skip.danglingEdge e.id).message) edges
  rw [List.filterMap_eq_filter, ← hdangling] at hkept
  rw [← ofParts_filter_joins]
  exact hkept.thenReturn (ofParts nodes)

theorem tells_lists (rawNodes rawEdges : List Value) :
    Tells tell (do
        let nodes ← tellingEntries tell Node.read? .nodeWithoutId rawNodes
        let edges ← tellingEntries tell Edge.read? .edgeWithoutEnds rawEdges
        return Except.ok (ε := DiagramError) (← tellingParts tell nodes edges))
      ((readEntries Node.read? .nodeWithoutId rawNodes).2.map Skip.message ++
        ((readEntries Edge.read? .edgeWithoutEnds rawEdges).2.map Skip.message ++
          (danglingEdges (rawNodes.filterMap Node.read?) (rawEdges.filterMap Edge.read?)).map
            fun e => (Skip.danglingEdge e.id).message))
      (.ok (ofParts (rawNodes.filterMap Node.read?) (rawEdges.filterMap Edge.read?))) := by
  refine (tells_entries tell Node.read? .nodeWithoutId rawNodes).bind ?_
  refine (tells_entries tell Edge.read? .edgeWithoutEnds rawEdges).bind ?_
  exact (tells_parts tell _ _).thenReturn Except.ok

/-- Reading a graph's data tells its skips. -/
theorem tells_graph (graph : Value) :
    Tells tell (tellingGraph tell graph)
      ((((ofGraph graph).toOption.map Prod.snd).getD []).map Skip.message)
      ((ofGraph graph).map Prod.fst) := by
  cases graph with
  | mapping parts =>
    unfold tellingGraph ofGraph
    generalize (Value.mapping parts).fieldOrNull "nodes" = nodes
    generalize (Value.mapping parts).fieldOrNull "edges" = edges
    cases nodes with
    | list rawNodes =>
      cases edges with
      | list rawEdges =>
        have hlists := tells_lists tell rawNodes rawEdges
        rw [← List.append_assoc, ← List.map_append] at hlists
        simpa [Except.toOption, Except.map, readEntries, Function.comp_def] using hlists
      | _ => exact .pure tell _
    | _ => exact .pure tell _
  | _ => exact .pure tell _

theorem ignoredConditions_eq_map (d : Diagram) (n : Node) :
    d.ignoredConditions n =
      ((d.conditionedEdges n).filter fun e => (Condition.parse? e.condition).isNone).map
        fun e => ⟨n.name, e.condition, e.id⟩ := by
  rw [← List.filterMap_eq_map, List.filterMap_filter]
  rfl

theorem tells_lower (d : Diagram) (owners : OrderedMap String String) (n : Node) :
    Tells tell (d.tellingLower tell owners n)
      ((d.ignoredConditions n).map IgnoredCondition.message) (d.lower owners n) := by
  rw [ignoredConditions_eq_map, List.map_map]
  exact (Tells.keepOrTell tell _ _ _).thenReturn fun conditions : List Condition =>
    Activity.mk n.name (ownerOf owners n.id) (d.isInitial n) conditions n.requirements

theorem tells_lowerAll (d : Diagram) (owners : OrderedMap String String) :
    Tells tell (d.activities.mapM (d.tellingLower tell owners))
      (d.allIgnoredConditions.map IgnoredCondition.message) (d.lowerAll owners) := by
  rw [allIgnoredConditions, List.map_flatMap]
  exact .mapM fun n _ => tells_lower tell d owners n

/-- Compiling a diagram tells its notices. -/
theorem tells_compile (tell : Notice → m PUnit) (d : Diagram) :
    Tells tell (d.tellingCompile tell) d.notices d.compile := by
  have hlowered := (tells_lowerAll (fun s => tell ⟨.activities, s⟩) d d.owners).through
    (Notice.mk .activities)
  rw [List.map_map] at hlowered
  refine hlowered.bind ?_
  exact (Tells.one tell ⟨.compile, d.summary⟩).thenReturn fun _ => d.compile

end Diagram

/-- Compiling a project's data tells all there is to tell, in order, and gives its model. -/
theorem tells_compileProject (tell : Notice → m PUnit) (project : Value) :
    Tells tell (tellingCompileProject tell project)
      ((projectNotices project).toOption.getD []) (compileProject project) := by
  unfold tellingCompileProject projectNotices compileProject Diagram.ofProject
  cases project.field? "json" with
  | none => exact .pure tell _
  | some graph =>
    have hgraph := (Diagram.tells_graph (fun s => tell ⟨.graph, s⟩) graph).through
      (Notice.mk .graph)
    dsimp only
    cases hread : Diagram.ofGraph graph with
    | error e =>
      rw [hread] at hgraph
      have hend : Tells tell (pure (Except.error (α := Model) e)) [] (.error e) := .pure tell _
      exact hgraph.bind hend
    | ok read =>
      obtain ⟨d, skips⟩ := read
      rw [hread, List.map_map] at hgraph
      have hend := (d.tells_compile tell).thenReturn (Except.ok (ε := DiagramError))
      exact hgraph.bind hend

end FlowDiagram
