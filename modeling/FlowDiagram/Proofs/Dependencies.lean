import FlowDiagram.Model.Compile
import FlowDiagram.Proofs.Connections
import FlowDiagram.Proofs.Ownership

/-! # Dependencies are no control flow

A dependency edge says when activities wait for each other, and no item moves along it.  So two
diagrams with the same nodes and the same flow edges have the same owners, assigned in the same
order, and the same flows, whatever dependency edges stand between.  Walks and claims see flow edges
only, and a flow is the connection that a flow edge stands for.
-/

namespace FlowDiagram.Diagram

/-- The two diagrams differ in dependency edges only. -/
structure SameFlow (d d' : Diagram) : Prop where
  nodes : d'.nodes = d.nodes
  flowEdges : d'.flowEdges = d.flowEdges

namespace SameFlow

variable {d d' : Diagram} (h : SameFlow d d')

include h

theorem symm : SameFlow d' d := ⟨h.nodes.symm, h.flowEdges.symm⟩

theorem walksTo {g : Node} {a : String} (hw : d.WalksTo g a) : d'.WalksTo g a :=
  hw.mono h.nodes fun _ he => h.flowEdges ▸ he

theorem claimed (g : Node) : d'.claimed g = d.claimed g := by
  simp only [Diagram.claimed, h.flowEdges, hasKind_congr h.nodes]

theorem walkedTo (g : Node) : d'.walkedTo g = d.walkedTo g := by
  have hwalks : ∀ a, d'.WalksTo g a ↔ d.WalksTo g a := fun a => ⟨h.symm.walksTo, h.walksTo⟩
  simp only [Diagram.walkedTo, activities, nodesOfKind_congr h.nodes, hwalks]

theorem owners : d'.owners = d.owners := by
  simp only [owners_eq_foldl, directClaims_eq_foldl, generators, nodesOfKind_congr h.nodes,
    h.claimed, h.walkedTo]

/-- The record of an activity names the same entity. -/
theorem handlers :
    (d'.lowerAll d'.owners).map (fun r => (r.id, r.handlerType)) =
      (d.lowerAll d.owners).map fun r => (r.id, r.handlerType) := by
  simp only [lowerAll, activities, nodesOfKind_congr h.nodes, List.map_map, h.owners]
  rfl

end SameFlow

/-- The flows are the connections that flow edges stand for. -/
theorem connections_filter_flow (d : Diagram) :
    d.connections.filter (·.kind = .flow) = d.flowEdges.filterMap d.joined? := by
  have hjoins : d.connections.filter (·.kind = .flow) =
      (d.connections.filter (·.kind ≠ .startToInflow)).filter (·.kind = .flow) := by
    rw [List.filter_filter]
    refine List.filter_congr fun c _ => ?_
    by_cases hc : c.kind = .flow
    · simp [hc]
    · simp [hc]
  rw [hjoins, connections_filter_join, List.filter_filterMap, flowEdges, List.filterMap_filter]
  refine List.filterMap_congr fun e _ => ?_
  cases hj : d.joined? e with
  | none => simp
  | some c =>
    have hflow : c.kind = .flow ↔ e.isDependency = false := by
      rw [joined?_kind hj, e.joinKind_eq_flow]
    cases hdep : e.isDependency <;> simp [Option.filter, hflow, hdep]

theorem SameFlow.flows {d d' : Diagram} (h : SameFlow d d') :
    d'.connections.filter (·.kind = .flow) = d.connections.filter (·.kind = .flow) := by
  rw [connections_filter_flow, connections_filter_flow, h.flowEdges,
    funext (joined?_congr h.nodes)]

/-- Which edges join nodes does not depend on the others, so dangling ones may go first or last. -/
theorem sameFlow_ofParts (nodes : List Node) {edges edges' : List Edge}
    (h : edges'.filter (!·.isDependency) = edges.filter (!·.isDependency)) :
    SameFlow (ofParts nodes edges) (ofParts nodes edges') where
  nodes := rfl
  flowEdges := by
    change (edges'.filter _).filter _ = (edges.filter _).filter _
    rw [List.filter_comm, h, List.filter_comm]

/-- Dependency edges may be inserted, deleted and moved: as long as the flow edges stay in their
order, the activities have the same owners, assigned in the same order, their records name the same
entities, and the flows are the same. -/
theorem dependencies_control_nothing (nodes : List Node) {edges edges' : List Edge}
    (h : edges'.filter (!·.isDependency) = edges.filter (!·.isDependency)) :
    (ofParts nodes edges').owners = (ofParts nodes edges).owners ∧
      (ofParts nodes edges').compile.activities.map (fun r => (r.id, r.handlerType)) =
        (ofParts nodes edges).compile.activities.map (fun r => (r.id, r.handlerType)) ∧
      (ofParts nodes edges').compile.connections.filter (·.kind = .flow) =
        (ofParts nodes edges).compile.connections.filter (·.kind = .flow) := by
  have hs := sameFlow_ofParts nodes h
  exact ⟨hs.owners, hs.handlers, hs.flows⟩

/-- Two generators, and two activities with a node of another type between them. -/
def aroundNote : List Node :=
  [⟨"g1", .text "generator", "Clerk", []⟩, ⟨"g2", .text "generator", "Desk", []⟩,
    ⟨"a1", .text "activity", "Serve", []⟩, ⟨"n", .text "event", "Note", []⟩,
    ⟨"a2", .text "activity", "Rest", []⟩]

/-- The first generator starts an activity, on a cycle with the other node. -/
def flowCycle : List Edge := [flowBetween "g1" "a1", flowBetween "a1" "n", flowBetween "n" "a1"]

/-- The second generator would claim the activity, and the cycle would lead on to the other one, if
dependencies were flow edges. -/
def cycleWithDependencies : List Edge :=
  [dependencyBetween "g2" "a1", flowBetween "g1" "a1", dependencyBetween "n" "a2",
    flowBetween "a1" "n", flowBetween "n" "a1", dependencyBetween "a2" "g2"]

theorem dependencies_beside_cycle :
    cycleWithDependencies.filter (!·.isDependency) = flowCycle.filter (!·.isDependency) ∧
      (ofParts aroundNote flowCycle).owners.entries = [("a1", "Clerk")] ∧
      (ofParts aroundNote cycleWithDependencies).owners = (ofParts aroundNote flowCycle).owners ∧
      (ofParts aroundNote cycleWithDependencies).compile.activities.map
          (fun r => (r.id, r.handlerType)) =
        (ofParts aroundNote flowCycle).compile.activities.map (fun r => (r.id, r.handlerType)) ∧
      (ofParts aroundNote cycleWithDependencies).compile.connections.filter (·.kind = .flow) =
        (ofParts aroundNote flowCycle).compile.connections.filter (·.kind = .flow) := by
  have h : cycleWithDependencies.filter (!·.isDependency) = flowCycle.filter (!·.isDependency) := rfl
  exact ⟨h, by decide +kernel, dependencies_control_nothing aroundNote h⟩

end FlowDiagram.Diagram
