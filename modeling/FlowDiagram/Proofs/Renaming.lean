import FlowDiagram.Proofs.Alike

/-! # Ids carry no meaning

Two diagrams that differ by an injective renaming of the ids of their nodes compile to the same
model, since nodes and edges under other ids are alike in all that rules look at.
-/

namespace FlowDiagram

/-- The node under another id. -/
def Node.rename (f : String → String) (n : Node) : Node := { n with id := f n.id }

/-- The edge between other ids. -/
def Edge.rename (f : String → String) (e : Edge) : Edge :=
  { e with source := f e.source, target := f e.target }

namespace Diagram

theorem nodes_alike_rename (f : String → String) (nodes : List Node) :
    List.Forall₂ (Node.Alike f) nodes (nodes.map (Node.rename f)) := by
  rw [List.forall₂_map_right_iff, List.forall₂_same]
  exact fun n _ => ⟨rfl, rfl, rfl, rfl⟩

theorem edges_alike_rename (f : String → String) (edges : List Edge) :
    List.Forall₂ (Edge.Alike f) edges (edges.map (Edge.rename f)) := by
  rw [List.forall₂_map_right_iff, List.forall₂_same]
  exact fun e _ => ⟨rfl, rfl, rfl, rfl, rfl⟩

theorem renames_ofParts {f : String → String} (hf : Function.Injective f) (nodes : List Node)
    (edges : List Edge) :
    Alike f (ofParts nodes edges)
      (ofParts (nodes.map (Node.rename f)) (edges.map (Edge.rename f))) :=
  alike_ofParts hf (nodes_alike_rename f nodes) (edges_alike_rename f edges)

/-- A diagram compiles to the same model under other ids. -/
theorem compile_rename_ids {f : String → String} (hf : Function.Injective f) (nodes : List Node)
    (edges : List Edge) :
    (ofParts (nodes.map (Node.rename f)) (edges.map (Edge.rename f))).compile =
      (ofParts nodes edges).compile :=
  (renames_ofParts hf nodes edges).compile

/-- A generator and two activities of one id. -/
def sharedId : List Node :=
  [⟨"g", .text "generator", "Clerk", []⟩, ⟨"a", .text "activity", "Serve", []⟩,
    ⟨"a", .text "activity", "Rest", []⟩]

/-- An edge that joins two of the nodes and one that leads to none. -/
def danglingTo : List Edge :=
  [⟨"e1", "g", "a", false, "True", .null, .null, .null⟩,
    ⟨"e2", "a", "x", false, "True", .null, .null, .null⟩]

theorem compile_marked_ids :
    Function.Injective ("n-" ++ ·) ∧
      (ofParts (sharedId.map (Node.rename ("n-" ++ ·)))
          (danglingTo.map (Edge.rename ("n-" ++ ·)))).compile =
        (ofParts sharedId danglingTo).compile := by
  have hf : Function.Injective ("n-" ++ ·) := by
    intro a b hab
    simpa using hab
  exact ⟨hf, compile_rename_ids hf sharedId danglingTo⟩

end Diagram

end FlowDiagram
