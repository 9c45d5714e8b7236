import FlowDiagram.Ownership.Walk
import FlowDiagram.Proofs.Diagram

/-! # A walk expands what paths lead to

Every id that waits or has been expanded is at the end of a path, and whatever follows an expanded
id waits or has been expanded.  When nothing waits any more the expanded ids are therefore closed
under the steps of a path, and no path leaves them.  A path in turn is the trace of a row of edges that
follow each other, so the activities that are reached can be told from the edges alone.
-/

namespace FlowDiagram

namespace Diagram

variable {d : Diagram} {a b s : String}

theorem mem_successors :
    b ∈ d.successors a ↔ ∃ e ∈ d.flowEdges, e.source = a ∧ e.target = b ∧ d.canEnter b := by
  simp only [successors, flowEdges, List.mem_map, List.mem_filter, mem_outgoing, Bool.and_eq_true]
  constructor
  · rintro ⟨e, ⟨⟨he, rfl⟩, hflow, henter⟩, rfl⟩
    exact ⟨e, ⟨he, hflow⟩, rfl, rfl, henter⟩
  · rintro ⟨e, ⟨he, hflow⟩, rfl, rfl, henter⟩
    exact ⟨e, ⟨⟨he, rfl⟩, hflow, henter⟩, rfl⟩

theorem canEnter_congr {d' : Diagram} (h : d'.nodes = d.nodes) (x : String) :
    d'.canEnter x = d.canEnter x := by
  rw [canEnter, canEnter, node?_congr h]

theorem canEnter_of_activity (h : d.hasKind a .activity) : d.canEnter a := by
  obtain ⟨n, hn, hk⟩ := hasKind_iff.1 h
  simp [canEnter, hn, hk]

theorem Path.mono {d' : Diagram} (hn : d'.nodes = d.nodes)
    (he : ∀ e ∈ d.flowEdges, e ∈ d'.flowEdges) (h : Path d s a) : Path d' s a := by
  induction h with
  | here => exact .here
  | onward _ hedge henter ih => exact ih.onward (he _ hedge) (by rwa [canEnter_congr hn])

theorem Path.step (h : Path d s a) (hb : b ∈ d.successors a) : Path d s b := by
  obtain ⟨e, he, rfl, rfl, henter⟩ := mem_successors.1 hb
  exact h.onward he henter

end Diagram

namespace Walk

open Diagram (Path)

variable {d : Diagram} {s : String} {w w' : Walk}

/-- A step takes an id off the queue, and expands it unless that has been done. -/
theorem step?_eq_some (h : w.step? d = some w') :
    ∃ id rest, w.queue = id :: rest ∧
      (id ∈ w.expanded ∧ w' = ⟨rest, w.expanded⟩ ∨
        id ∉ w.expanded ∧ w' = ⟨rest ++ d.successors id, w.expanded ++ [id]⟩) := by
  unfold step? at h
  split at h
  · cases h
  · next id rest hq =>
    refine ⟨id, rest, hq, ?_⟩
    split at h
    · next hin => exact Or.inl ⟨hin, (Option.some.inj h).symm⟩
    · next hin => exact Or.inr ⟨hin, (Option.some.inj h).symm⟩

theorem step?_eq_none (h : w.step? d = none) : w.queue = [] := by
  unfold step? at h
  split at h
  · assumption
  · split at h <;> cases h

theorem run_of_end (h : w.step? d = none) : w.run d = w := by
  rw [run]
  split
  · rfl
  · next hw =>
    rw [h] at hw
    cases hw

theorem run_of_step? (h : w.step? d = some w') : w.run d = w'.run d := by
  rw [run]
  split
  · next hw =>
    rw [h] at hw
    cases hw
  · next hw =>
    rw [h] at hw
    cases hw
    rfl

/-- What each step of a walk keeps holds at its end, where nothing waits. -/
theorem run_induct (P : Walk → Prop) (hstep : ∀ w w', P w → w.step? d = some w' → P w')
    (hw : P w) : P (w.run d) ∧ (w.run d).queue = [] := by
  fun_induction run d w with
  | case1 w hend => exact ⟨hw, step?_eq_none hend⟩
  | case2 w w' hnext ih => exact ih (hstep w w' hw hnext)

/-- The id waits or has been expanded. -/
def Seen (w : Walk) (a : String) : Prop := a ∈ w.queue ∨ a ∈ w.expanded

section Seen

variable {a id : String} {rest : List String} (hq : w.queue = id :: rest)

include hq

theorem seen_first : w.Seen id := Or.inl (hq ▸ List.mem_cons_self)

theorem seen_drop (hid : id ∈ w.expanded) : Seen ⟨rest, w.expanded⟩ a ↔ w.Seen a := by
  simp only [Seen, hq, List.mem_cons]
  constructor
  · rintro (ha | ha)
    · exact Or.inl (Or.inr ha)
    · exact Or.inr ha
  · rintro ((rfl | ha) | ha)
    · exact Or.inr hid
    · exact Or.inl ha
    · exact Or.inr ha

/-- An expansion adds what follows the id, and loses nothing. -/
theorem seen_expand :
    Seen ⟨rest ++ d.successors id, w.expanded ++ [id]⟩ a ↔ w.Seen a ∨ a ∈ d.successors id := by
  simp only [Seen, hq, List.mem_append, List.mem_cons, List.not_mem_nil, or_false]
  grind

end Seen

theorem Seen.step {a : String} (ha : w.Seen a) (h : w.step? d = some w') : w'.Seen a := by
  obtain ⟨id, rest, hq, ⟨hid, rfl⟩ | ⟨-, rfl⟩⟩ := step?_eq_some h
  · exact (seen_drop hq hid).2 ha
  · exact (seen_expand hq).2 (Or.inl ha)

/-- How far a walk from an id has come. -/
structure Progress (d : Diagram) (s : String) (w : Walk) : Prop where
  started : w.Seen s
  sound : ∀ a, w.Seen a → Path d s a
  closed : ∀ a ∈ w.expanded, ∀ b ∈ d.successors a, w.Seen b

theorem progress_start (d : Diagram) (s : String) : Progress d s (start s) where
  started := seen_first rfl
  sound := by
    rintro a (ha | ha)
    · rw [List.mem_singleton.1 ha]
      exact Path.here
    · cases ha
  closed := by
    intro a ha
    cases ha

theorem Progress.step (hp : Progress d s w) (h : w.step? d = some w') : Progress d s w' where
  started := hp.started.step h
  sound := by
    intro a ha
    obtain ⟨id, rest, hq, ⟨hid, rfl⟩ | ⟨-, rfl⟩⟩ := step?_eq_some h
    · exact hp.sound a ((seen_drop hq hid).1 ha)
    · rcases (seen_expand hq).1 ha with ha | ha
      · exact hp.sound a ha
      · exact (hp.sound id (seen_first hq)).step ha
  closed := by
    intro a ha b hb
    obtain ⟨id, rest, hq, ⟨-, rfl⟩ | ⟨-, rfl⟩⟩ := step?_eq_some h
    · exact (hp.closed a ha b hb).step h
    · rcases List.mem_append.1 ha with ha | ha
      · exact (hp.closed a ha b hb).step h
      · rw [List.mem_singleton.1 ha] at hb
        exact (seen_expand hq).2 (Or.inr hb)

end Walk

namespace Diagram

variable {d : Diagram} {a s : String}

/-- A walk from an id expands exactly the ids that a path from it leads to. -/
theorem mem_walked : a ∈ d.walked s ↔ Path d s a := by
  obtain ⟨hp, hempty⟩ : Walk.Progress d s ((Walk.start s).run d) ∧ _ :=
    Walk.run_induct (Walk.Progress d s) (fun _ _ hp h => hp.step h) (Walk.progress_start d s)
  -- nothing waits at the end, so what has been seen has been expanded
  have hseen : ∀ b, ((Walk.start s).run d).Seen b → b ∈ d.walked s := by
    rintro b (hb | hb)
    · rw [hempty] at hb
      cases hb
    · exact hb
  constructor
  · intro ha
    exact hp.sound a (Or.inr ha)
  · intro h
    induction h with
    | here => exact hseen s hp.started
    | onward _ he henter ih =>
      exact hseen _ (hp.closed _ ih _ (mem_successors.2 ⟨_, he, rfl, rfl, henter⟩))

instance (d : Diagram) (s a : String) : Decidable (Path d s a) := decidable_of_iff _ mem_walked

theorem mem_reachableActivities :
    a ∈ d.reachableActivities s ↔ Path d s a ∧ d.hasKind a .activity := by
  rw [reachableActivities, List.mem_filter, mem_walked]

/-- The edges follow each other from one id to another. -/
def Joined : String → List Edge → String → Prop
  | s, [], a => s = a
  | s, e :: es, a => e.source = s ∧ Joined e.target es a

/-- The edge is a flow edge of the diagram, and no terminator is at its end. -/
def Walkable (d : Diagram) (e : Edge) : Prop :=
  e ∈ d.edges ∧ e.isDependency = false ∧ ∀ n, d.node? e.target = some n → n.kind ≠ .terminator

theorem joined_append_singleton {e : Edge} {es : List Edge} (h : Joined s es e.source) :
    Joined s (es ++ [e]) e.target := by
  induction es generalizing s with
  | nil => exact ⟨h.symm, rfl⟩
  | cons e' es ih => exact ⟨h.1, ih h.2⟩

theorem walkable_iff {e : Edge} :
    d.Walkable e ↔ e ∈ d.flowEdges ∧ d.canEnter e.target = true := by
  rw [Walkable, flowEdges, List.mem_filter, and_assoc]
  apply and_congr_right
  intro he
  apply and_congr (by simp)
  obtain ⟨n, hn⟩ := Option.isSome_iff_exists.1 (d.edges_resolve e he).2
  have hnode : d.node? e.target = some n := hn
  simp [canEnter, hnode]

/-- A path goes on along edges that follow each other and may be walked. -/
theorem Path.along {b : String} {es : List Edge} (h : Path d s b) (hjoined : Joined b es a)
    (hwalkable : ∀ e ∈ es, d.Walkable e) : Path d s a := by
  induction es generalizing b with
  | nil =>
    obtain rfl : b = a := hjoined
    exact h
  | cons e es ih =>
    obtain ⟨rfl, hjoined⟩ := hjoined
    obtain ⟨he, henter⟩ := walkable_iff.1 (hwalkable e List.mem_cons_self)
    apply ih (h.onward he henter) hjoined
    intro e' he'
    exact hwalkable e' (List.mem_cons_of_mem e he')

theorem path_iff_joined :
    Path d s a ↔ ∃ es, Joined s es a ∧ ∀ e ∈ es, d.Walkable e := by
  constructor
  · intro h
    induction h with
    | here => exact ⟨[], rfl, by simp⟩
    | @onward e _ he henter ih =>
      obtain ⟨es, hjoined, hwalkable⟩ := ih
      refine ⟨es ++ [e], joined_append_singleton hjoined, ?_⟩
      intro e' he'
      rcases List.mem_append.1 he' with he' | he'
      · exact hwalkable e' he'
      · rw [List.mem_singleton.1 he']
        exact walkable_iff.2 ⟨he, henter⟩
  · rintro ⟨es, hjoined, hwalkable⟩
    exact Path.here.along hjoined hwalkable

/-- From any id, whether it means a node or not, exactly those activities are reached to which flow edges
lead, one following the other, with no terminator at the end of any of them. -/
theorem reached_iff_joined (d : Diagram) (s a : String) :
    a ∈ d.reachableActivities s ↔
      (∃ n, d.node? a = some n ∧ n.kind = .activity) ∧
        ∃ es, Joined s es a ∧ ∀ e ∈ es, d.Walkable e := by
  rw [mem_reachableActivities, hasKind_iff, path_iff_joined, and_comm]

end Diagram

end FlowDiagram
