import FlowDiagram.Ownership.Basic
import FlowDiagram.Proofs.OrderedMap
import FlowDiagram.Proofs.Reachability

/-! # Whose activity it is

Two things decide whom an activity belongs to: which generators have a flow edge to it, and which
have a path to it.  The last generator of the first sort goes before all others, and without any
it is the first generator of the second sort.  The order in which activities are assigned follows
the generators too, first along their edges and then along the drawn activities.
-/

namespace FlowDiagram.Diagram

variable {d : Diagram} {g : Node} {a : String}

/-- The generator has a flow edge to the activity. -/
def Claims (d : Diagram) (g : Node) (a : String) : Prop :=
  d.hasKind a .activity ∧ ∃ e ∈ d.flowEdges, e.source = g.id ∧ e.target = a

/-- The generator has a path to the activity. -/
def WalksTo (d : Diagram) (g : Node) (a : String) : Prop :=
  d.hasKind a .activity ∧ Path d g.id a

instance (d : Diagram) (g : Node) (a : String) : Decidable (d.Claims g a) :=
  inferInstanceAs (Decidable (_ ∧ _))

instance (d : Diagram) (g : Node) (a : String) : Decidable (d.WalksTo g a) :=
  inferInstanceAs (Decidable (_ ∧ _))

/-- A claim is a path of one edge. -/
theorem Claims.walksTo (h : d.Claims g a) : d.WalksTo g a := by
  obtain ⟨hkind, e, he, hs, rfl⟩ := h
  have hstart : Path d g.id e.source := hs ▸ .here
  exact ⟨hkind, hstart.onward he (canEnter_of_activity hkind)⟩

section Mono

variable {d' : Diagram} (hn : d'.nodes = d.nodes) (he : ∀ e ∈ d.flowEdges, e ∈ d'.flowEdges)

include hn he

theorem Claims.mono (h : d.Claims g a) : d'.Claims g a := by
  obtain ⟨hkind, e, hedge, hs, ht⟩ := h
  exact ⟨by rwa [hasKind_congr hn], e, he e hedge, hs, ht⟩

theorem WalksTo.mono (h : d.WalksTo g a) : d'.WalksTo g a :=
  ⟨by rw [hasKind_congr hn]; exact h.1, h.2.mono hn he⟩

end Mono

/-- The activities at the ends of a generator's flow edges, in edge order. -/
def claimed (d : Diagram) (g : Node) : List String :=
  (d.flowEdges.filter fun e => e.source = g.id ∧ d.hasKind e.target .activity).map (·.target)

/-- The drawn activities that a generator has a path to. -/
def walkedTo (d : Diagram) (g : Node) : List String :=
  (d.activities.map (·.id)).filter (d.WalksTo g)

theorem directActivities_eq_claimed (d : Diagram) (g : Node) :
    d.directActivities g.id = d.claimed g := by
  simp only [directActivities, claimed, outgoing_eq_filter, flowEdges, List.filter_filter]
  refine congrArg (List.map _) (List.filter_congr fun e _ => ?_)
  rw [Bool.eq_iff_iff]
  simp only [Bool.and_eq_true, decide_eq_true_eq, beq_iff_eq, and_comm, and_left_comm]

theorem mem_claimed : a ∈ d.claimed g ↔ d.Claims g a := by
  simp only [claimed, Claims, List.mem_map, List.mem_filter, decide_eq_true_eq]
  constructor
  · rintro ⟨e, ⟨he, hs, hact⟩, rfl⟩
    exact ⟨hact, e, he, hs, rfl⟩
  · rintro ⟨hact, e, he, hs, rfl⟩
    exact ⟨e, ⟨he, hs, hact⟩, rfl⟩

theorem drawnReachable_eq_walkedTo (d : Diagram) (g : Node) :
    d.drawnReachable g.id = d.walkedTo g := by
  refine List.filter_congr fun a _ => decide_eq_decide.2 ?_
  rw [mem_reachableActivities, WalksTo, and_comm]

/-- An id that means an activity is among the ids of those drawn, also where ids repeat. -/
theorem mem_walkedTo : a ∈ d.walkedTo g ↔ d.WalksTo g a := by
  rw [walkedTo, List.mem_filter, decide_eq_true_iff, and_iff_right_iff_imp]
  intro h
  obtain ⟨n, hn, rfl⟩ := exists_of_hasKind h.1
  exact List.mem_map_of_mem hn

theorem directClaims_eq_foldl (d : Diagram) :
    d.directClaims = d.generators.foldl
      (fun owners g => (d.claimed g).foldl (fun owners a => owners.put a g.name) owners) .empty := by
  simp only [directClaims, directActivities_eq_claimed]

theorem owners_eq_foldl (d : Diagram) :
    d.owners = d.generators.foldl
      (fun owners g => (d.walkedTo g).foldl (fun owners a => owners.putNew a g.name) owners)
      d.directClaims := by
  simp only [owners, drawnReachable_eq_walkedTo]

theorem directClaims_get? (d : Diagram) (a : String) :
    d.directClaims.get? a = (d.generators.filter (d.Claims · a)).getLast?.map Node.name := by
  have hc : d.generators.filter (a ∈ d.claimed ·) = d.generators.filter (d.Claims · a) :=
    List.filter_congr fun g _ => decide_eq_decide.2 mem_claimed
  rw [directClaims_eq_foldl, OrderedMap.get?_foldl_put, hc]
  exact Option.or_none

theorem owners_get? (d : Diagram) (a : String) :
    d.owners.get? a =
      ((d.generators.filter (d.Claims · a)).getLast?.or
        (d.generators.filter (d.WalksTo · a)).head?).map Node.name := by
  have hw : d.generators.filter (a ∈ d.walkedTo ·) = d.generators.filter (d.WalksTo · a) :=
    List.filter_congr fun g _ => decide_eq_decide.2 mem_walkedTo
  rw [owners_eq_foldl, OrderedMap.get?_foldl_putNew, directClaims_get?, hw, Option.map_or]

theorem claims_of_getLast? (h : (d.generators.filter (d.Claims · a)).getLast? = some g) :
    g ∈ d.generators ∧ d.Claims g a := by
  simpa using List.mem_of_getLast? h

theorem walksTo_of_head? (h : (d.generators.filter (d.WalksTo · a)).head? = some g) :
    g ∈ d.generators ∧ d.WalksTo g a := by
  simpa using List.mem_of_head? h

/-- The owner of an activity is a generator with a path to it. -/
theorem exists_of_owners_get? {owner : String} (ho : d.owners.get? a = some owner) :
    ∃ g ∈ d.generators, g.name = owner ∧ d.WalksTo g a := by
  rw [owners_get?, Option.map_eq_some_iff] at ho
  obtain ⟨g, hg, hname⟩ := ho
  rcases Option.or_eq_some_iff.1 hg with hlast | ⟨-, hfirst⟩
  · obtain ⟨hgen, hclaims⟩ := claims_of_getLast? hlast
    exact ⟨g, hgen, hname, hclaims.walksTo⟩
  · obtain ⟨hgen, hwalks⟩ := walksTo_of_head? hfirst
    exact ⟨g, hgen, hname, hwalks⟩

/-- An activity that some generator claims belongs to a generator that claims it. -/
theorem exists_owner_of_claims (hg : g ∈ d.generators) (h : d.Claims g a) :
    ∃ owner ∈ d.generators, d.Claims owner a ∧ d.owners.get? a = some owner.name := by
  have hmem : g ∈ d.generators.filter (d.Claims · a) := List.mem_filter.2 ⟨hg, by simpa using h⟩
  cases hlast : (d.generators.filter (d.Claims · a)).getLast? with
  | none =>
    rw [List.getLast?_eq_none_iff] at hlast
    rw [hlast] at hmem
    cases hmem
  | some owner =>
    obtain ⟨howner, hclaims⟩ := claims_of_getLast? hlast
    exact ⟨owner, howner, hclaims, by rw [owners_get?, hlast]; rfl⟩

theorem directClaims_keys (d : Diagram) :
    d.directClaims.keys = keepFirst (d.generators.flatMap d.claimed) := by
  rw [directClaims_eq_foldl]
  exact OrderedMap.keys_foldl_items d.claimed (fun g _ => g.name) d.generators .empty

theorem owners_keys (d : Diagram) :
    d.owners.keys =
      keepFirst (d.generators.flatMap d.claimed ++ d.generators.flatMap d.walkedTo) := by
  rw [owners_eq_foldl, ← foldl_keepNew_keepFirst, ← directClaims_keys]
  exact OrderedMap.keys_foldl_items d.walkedTo (fun g o => o.getD g.name) d.generators _

/-- An activity belongs to the last generator that has a flow edge to it, else to the first that has
a path to it, else to none.  Activities of the first sort are assigned before the others, generator
by generator, the former in the order of edges and the latter in that of the drawing. -/
theorem owners_follow_two_rules (d : Diagram) :
    (∀ a, d.owners.get? a =
      ((d.generators.filter (d.Claims · a)).getLast?.or
        (d.generators.filter (d.WalksTo · a)).head?).map Node.name) ∧
    d.owners.keys =
      keepFirst (d.generators.flatMap d.claimed ++ d.generators.flatMap d.walkedTo) :=
  ⟨d.owners_get?, d.owners_keys⟩

end FlowDiagram.Diagram
