import FlowDiagram.Proofs.Reachability

/-! # How long a walk goes on

Ids may wait in the queue again and again, so the queue may grow from step to step.  But the ids that an
expansion adds are the ends of flow edges that no earlier expansion has used, so what waits and the edges
that are still unused are fewer together after each step.  At the start one id waits and every flow edge is
unused, and a walk takes no more steps than these make together.
-/

namespace FlowDiagram.Walk

variable {d : Diagram} {s : String} {w w' : Walk}

/-- The walk after a number of steps, each of which takes an id off the queue; none if the walk has ended
before. -/
def after (d : Diagram) : Nat → Walk → Option Walk
  | 0, w => some w
  | n + 1, w => (w.step? d).bind (after d n)

/-- The id that the next step expands: the first that waits, unless that has been expanded. -/
def next? (w : Walk) : Option String :=
  match w.queue with
  | [] => none
  | id :: _ => if id ∈ w.expanded then none else some id

/-- The ids that a number of steps expand, in order, as often as they are expanded. -/
def expansions (d : Diagram) : Nat → Walk → List String
  | 0, _ => []
  | n + 1, w => w.next?.toList ++ (w.step? d).elim [] (expansions d n)

section Step

/-- A step takes the first id off the queue, and adds what follows that id only if it expands it. -/
theorem step?_of_next? (h : w.step? d = some w') :
    w.queue ≠ [] ∧ w'.queue = w.queue.tail ++ w.next?.toList.flatMap d.successors ∧
      w'.expanded = w.expanded ++ w.next?.toList := by
  obtain ⟨id, rest, hq, ⟨hid, rfl⟩ | ⟨hid, rfl⟩⟩ := step?_eq_some h
  · simp [next?, hq, hid]
  · simp [next?, hq, hid]

theorem next?_of_end (h : w.step? d = none) : w.next? = none := by
  simp [next?, step?_eq_none h]

theorem nodup_expanded_step (hw : w.expanded.Nodup) (h : w.step? d = some w') :
    w'.expanded.Nodup := by
  obtain ⟨id, rest, -, ⟨-, rfl⟩ | ⟨hid, rfl⟩⟩ := step?_eq_some h
  · exact hw
  · rw [List.nodup_append]
    refine ⟨hw, by simp, ?_⟩
    intro a ha b hb hab
    rw [List.mem_singleton] at hb
    exact hid (hb ▸ hab ▸ ha)

end Step

section Run

/-- The steps that are taken and those that are left are no more than those that were left. -/
theorem add_stepsLeft_le {n : Nat} (h : after d n w = some w') :
    n + w'.stepsLeft d ≤ w.stepsLeft d := by
  induction n generalizing w with
  | zero =>
    cases h
    omega
  | succ n ih =>
    rw [after, Option.bind_eq_some_iff] at h
    obtain ⟨v, hstep, hafter⟩ := h
    have hstep := stepsLeft_step? hstep
    have hafter := ih hafter
    omega

theorem exists_after_run (d : Diagram) (w : Walk) : ∃ n, after d n w = some (w.run d) := by
  fun_induction run d w with
  | case1 w hend => exact ⟨0, rfl⟩
  | case2 w w' hnext ih =>
    obtain ⟨n, hn⟩ := ih
    exact ⟨n + 1, by rw [after, hnext, Option.bind_some, hn]⟩

theorem queue_run (d : Diagram) (w : Walk) : (w.run d).queue = [] :=
  (run_induct (fun _ => True) (fun _ _ _ _ => trivial) trivial).2

theorem expanded_after {n : Nat} (h : after d n w = some w') :
    w'.expanded = w.expanded ++ expansions d n w := by
  induction n generalizing w with
  | zero =>
    cases h
    rw [expansions, List.append_nil]
  | succ n ih =>
    rw [after, Option.bind_eq_some_iff] at h
    obtain ⟨v, hstep, hafter⟩ := h
    rw [ih hafter, (step?_of_next? hstep).2.2, expansions, hstep, Option.elim_some,
      List.append_assoc]

theorem nodup_expansions (n : Nat) (hw : w.expanded.Nodup) :
    (w.expanded ++ expansions d n w).Nodup := by
  induction n generalizing w with
  | zero => rwa [expansions, List.append_nil]
  | succ n ih =>
    rw [expansions]
    cases hstep : w.step? d with
    | none => simpa [next?_of_end hstep] using hw
    | some v =>
      have h := ih (nodup_expanded_step hw hstep)
      rwa [(step?_of_next? hstep).2.2, List.append_assoc] at h

theorem stepsLeft_start (d : Diagram) (s : String) :
    (start s).stepsLeft d = 1 + d.flowEdges.length := by
  simp [stepsLeft, unused, start]

end Run

/-- Each step takes one id off the queue, and looks at the edges that leave it only if it expands it.  A walk
from any id, whether it means a node or not, expands each id at most once, and after at most one step more
than there are flow edges its queue is empty.  It has then expanded all that it walks to. -/
theorem walk_ends_within_flow_edges (d : Diagram) (s : String) :
    (∀ w w' : Walk, w.step? d = some w' →
      w.queue ≠ [] ∧ w'.queue = w.queue.tail ++ w.next?.toList.flatMap d.successors) ∧
    (∀ n, (expansions d n (start s)).Nodup) ∧
    ∃ n ≤ 1 + (d.edges.filter fun e => !e.isDependency).length, ∃ w,
      after d n (start s) = some w ∧ w.queue = [] ∧ expansions d n (start s) = d.walked s := by
  obtain ⟨n, hn⟩ := exists_after_run d (start s)
  have hbound : n + ((start s).run d).stepsLeft d ≤ 1 + d.flowEdges.length := by
    rw [← stepsLeft_start d s]
    exact add_stepsLeft_le hn
  have hexpanded : d.walked s = expansions d n (start s) := expanded_after hn
  refine ⟨?_, ?_, n, ?_, (start s).run d, hn, queue_run d _, hexpanded.symm⟩
  · intro w w' hstep
    exact ⟨(step?_of_next? hstep).1, (step?_of_next? hstep).2.1⟩
  · intro n
    exact nodup_expansions (w := start s) n List.nodup_nil
  · exact Nat.le_trans (Nat.le_add_right n _) hbound

end FlowDiagram.Walk
