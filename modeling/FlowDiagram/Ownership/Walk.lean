import FlowDiagram.Diagram.Basic

/-! # Walking a diagram

A walk goes breadth first along flow edges, the edges that are no dependencies, and enters no
terminator.  Ids may wait in the queue more than once; each is expanded when it first leaves the
queue.  Each step takes an id off the queue, and an expansion uses up the flow edges of its id, so
the queue's length and the number of unused flow edges together fall with each step.
-/

namespace FlowDiagram

namespace Diagram

def flowEdges (d : Diagram) : List Edge := d.edges.filter fun e => !e.isDependency

/-- A walk may enter the node that the id means. -/
def canEnter (d : Diagram) (id : String) : Bool :=
  match d.node? id with
  | some n => n.kind ≠ .terminator
  | none => false

/-- The ids that a walk goes on to from an id, in edge order. -/
def successors (d : Diagram) (id : String) : List String :=
  ((d.outgoing id).filter fun e => !e.isDependency && d.canEnter e.target).map (·.target)

/-- Flow edges lead from an id to another, and every node after the start may be entered. -/
inductive Path (d : Diagram) (start : String) : String → Prop where
  | here : Path d start start
  | onward {e : Edge} :
      Path d start e.source → e ∈ d.flowEdges → d.canEnter e.target → Path d start e.target

end Diagram

structure Walk where
  queue : List String
  expanded : List String

namespace Walk

def start (id : String) : Walk := ⟨[id], []⟩

/-- Take the first id off the queue and expand it unless it has been; none at the end. -/
def step? (d : Diagram) (w : Walk) : Option Walk :=
  match w.queue with
  | [] => none
  | id :: rest =>
    if id ∈ w.expanded then some { w with queue := rest }
    else some ⟨rest ++ d.successors id, w.expanded ++ [id]⟩

/-- The flow edges whose source has not been expanded. -/
def unused (d : Diagram) (w : Walk) : List Edge :=
  d.flowEdges.filter fun e => e.source ∉ w.expanded

/-- A bound on the steps that are left. -/
def stepsLeft (d : Diagram) (w : Walk) : Nat := w.queue.length + (w.unused d).length

theorem length_successors_le (d : Diagram) (id : String) :
    (d.successors id).length ≤ (d.flowEdges.filter (·.source == id)).length := by
  rw [Diagram.successors, List.length_map, Diagram.outgoing_eq_filter, Diagram.flowEdges,
    List.filter_filter, List.filter_filter, ← List.countP_eq_length_filter,
    ← List.countP_eq_length_filter]
  refine List.countP_mono_left fun e _ he => ?_
  simp only [Bool.and_eq_true] at he ⊢
  exact ⟨he.2, he.1.1⟩

private theorem length_unused_expand (es : List Edge) (expanded : List String) (id : String)
    (h : id ∉ expanded) :
    (es.filter (·.source == id)).length +
        (es.filter fun e => decide (e.source ∉ expanded ++ [id])).length =
      (es.filter fun e => decide (e.source ∉ expanded)).length := by
  induction es with
  | nil => rfl
  | cons e es ih =>
    by_cases hid : e.source = id
    · simp [hid, h] at ih ⊢
      omega
    · by_cases hin : e.source ∈ expanded
      · simpa [hid, hin] using ih
      · simp [hid, hin] at ih ⊢
        omega

theorem stepsLeft_step? {d : Diagram} {w w' : Walk} (h : w.step? d = some w') :
    w'.stepsLeft d < w.stepsLeft d := by
  unfold step? at h
  split at h
  · cases h
  · next id rest hq =>
    split at h
    · cases h
      simp [stepsLeft, unused, hq]
    · next hid =>
      cases h
      have hs := length_successors_le d id
      have hu := length_unused_expand d.flowEdges w.expanded id hid
      simp only [stepsLeft, unused, hq, List.length_append, List.length_cons] at hu ⊢
      omega

/-- The walk at its end. -/
def run (d : Diagram) (w : Walk) : Walk :=
  match _h : w.step? d with
  | none => w
  | some w' => run d w'
termination_by w.stepsLeft d
decreasing_by exact stepsLeft_step? (by assumption)

end Walk

namespace Diagram

/-- The ids that a walk from an id expands, in that order. -/
def walked (d : Diagram) (id : String) : List String := ((Walk.start id).run d).expanded

/-- The ids of the activities that a walk from an id comes to. -/
def reachableActivities (d : Diagram) (id : String) : List String :=
  (d.walked id).filter fun a => d.hasKind a .activity

end Diagram

end FlowDiagram
