import FlowDiagram.Proofs.Ownership
import Mathlib.Data.List.Basic

/-! # Generators that share an id

An id means the first node that has it, and edges lead to that node.  Generators are gone through
one by one, however, and each claims along the edges of its id, also if the id means another node.
So an owner is always the name of a drawn generator with a path to the activity, but need not be the
name of one that its id means: of several generators with one id the last takes what the edges of
that id enter.  No choice of edges brings this about exactly if no id means an activity, or if each
id of a generator means a generator, of the same name as the last one with that id.
-/

namespace FlowDiagram

section Ends

variable {α : Type} {p q : α → Bool} {xs : List α} {x : α}

theorem head?_filter_of_head? (h : xs.head? = some x) (hx : p x) :
    (xs.filter p).head? = some x := by
  cases xs with
  | nil => cases h
  | cons y ys =>
    cases h
    rw [List.filter_cons_of_pos hx, List.head?_cons]

theorem getLast?_filter_of_getLast? (h : xs.getLast? = some x) (hx : p x) :
    (xs.filter p).getLast? = some x := by
  obtain ⟨init, rfl⟩ := List.getLast?_eq_some_iff.1 h
  rw [List.filter_append, List.filter_cons_of_pos hx, List.filter_nil, List.getLast?_concat]

end Ends

namespace Diagram

variable {nodes : List Node} {d : Diagram} {g f : Node} {a id : String}

/-- Every owner is a generator that its id means, with a path to what it owns. -/
def OwnersMeant (d : Diagram) : Prop :=
  ∀ a owner, d.owners.get? a = some owner →
    ∃ g ∈ d.generators, d.node? g.id = some g ∧ g.name = owner ∧ Path d g.id a

/-- The generators with an id, in the order in which they are drawn. -/
def generatorsAt (d : Diagram) (id : String) : List Node := d.generators.filter (·.id = id)

/-- Each id of a generator means a generator, which has the name of the last one with that id. -/
def IdsMeanGenerators (d : Diagram) : Prop :=
  ∀ id last, (d.generatorsAt id).getLast? = some last →
    ∃ g ∈ d.generators, d.node? id = some g ∧ g.name = last.name

theorem generatorsAt_eq_filter {p : Node → Bool} (hp : ∀ g : Node, g.id = id → p g) :
    d.generatorsAt id = (d.generators.filter p).filter (·.id = id) := by
  rw [generatorsAt, List.filter_filter]
  refine List.filter_congr fun g _ => ?_
  by_cases hid : g.id = id
  · simp [hid, hp g hid]
  · simp [hid]

theorem getLast?_generatorsAt (h : (d.generators.filter (d.Claims · a)).getLast? = some g) :
    (d.generatorsAt g.id).getLast? = some g := by
  have hclaims := (claims_of_getLast? h).2
  have hsame : ∀ g' : Node, g'.id = g.id → decide (d.Claims g' a) := by
    intro g' hid
    rw [decide_eq_true_iff, Claims, hid]
    exact hclaims
  rw [generatorsAt_eq_filter hsame]
  exact getLast?_filter_of_getLast? h (by simp)

theorem head?_generatorsAt (h : (d.generators.filter (d.WalksTo · a)).head? = some g) :
    (d.generatorsAt g.id).head? = some g := by
  have hwalks := (walksTo_of_head? h).2
  have hsame : ∀ g' : Node, g'.id = g.id → decide (d.WalksTo g' a) := by
    intro g' hid
    rw [decide_eq_true_iff, WalksTo, hid]
    exact hwalks
  rw [generatorsAt_eq_filter hsame]
  exact head?_filter_of_head? h (by simp)

theorem head?_generatorsAt_of_node? (h : d.node? id = some f) (hk : f.kind = .generator) :
    (d.generatorsAt id).head? = some f := by
  have hswap : d.generatorsAt id = (d.nodes.filter (·.id == id)).filter (·.kind = .generator) := by
    rw [generatorsAt, generators, nodesOfKind, List.filter_comm]
    rfl
  rw [hswap]
  refine head?_filter_of_head? ?_ (by simpa using hk)
  rw [List.head?_filter, ← node?_eq_find?, h]

theorem ownersMeant_of_idsMeanGenerators (h : IdsMeanGenerators d) : OwnersMeant d := by
  intro a owner ho
  rw [owners_get?, Option.map_eq_some_iff] at ho
  obtain ⟨g, hg, rfl⟩ := ho
  rcases Option.or_eq_some_iff.1 hg with hlast | ⟨-, hfirst⟩
  · have hclaims := (claims_of_getLast? hlast).2
    obtain ⟨f, hf, hmeans, hname⟩ := h g.id g (getLast?_generatorsAt hlast)
    have hid : f.id = g.id := (node?_eq_some hmeans).2
    exact ⟨f, hf, hid ▸ hmeans, hname, hid ▸ hclaims.walksTo.2⟩
  · obtain ⟨hgen, hwalks⟩ := walksTo_of_head? hfirst
    have hhead := head?_generatorsAt hfirst
    cases hl : (d.generatorsAt g.id).getLast? with
    | none => simp [List.getLast?_eq_none_iff.1 hl] at hhead
    | some last =>
      -- the id means a generator, so of those with the id it is the first, and so is `g`
      obtain ⟨f, hf, hmeans, -⟩ := h g.id last hl
      have hfirst' := head?_generatorsAt_of_node? hmeans (mem_nodesOfKind.1 hf).2
      rw [hhead] at hfirst'
      cases hfirst'
      exact ⟨g, hgen, hmeans, rfl, hwalks.2⟩

theorem path_flowBetween {s x y : String}
    (h : Path (ofParts nodes [flowBetween x y]) s a) : s = a ∨ s = x := by
  induction h with
  | here => exact .inl rfl
  | onward _ he _ ih =>
    have hedge : _ = flowBetween x y :=
      List.mem_singleton.1 (List.mem_filter.1 (List.mem_filter.1 he).1).1
    rw [hedge] at ih
    rcases ih with hs | hs
    · exact .inr hs
    · exact .inr hs

/-- An activity that one flow edge enters belongs to the last generator with the id of its source. -/
theorem owners_get?_flowBetween {last : Node} (ha : (ofParts nodes []).hasKind a .activity)
    (hl : ((ofParts nodes []).generatorsAt id).getLast? = some last) :
    (ofParts nodes [flowBetween id a]).owners.get? a = some last.name := by
  have hjoins : joins (nodesById nodes) (flowBetween id a) = true := by
    obtain ⟨hlast, hid⟩ := List.mem_filter.1 (List.mem_of_getLast? hl)
    obtain ⟨n, hn, hna⟩ := exists_of_hasKind ha
    exact joins_iff.2 ⟨⟨last, (mem_nodesOfKind.1 hlast).1, of_decide_eq_true hid⟩,
      ⟨n, (mem_nodesOfKind.1 hn).1, hna⟩⟩
  have hflow : (ofParts nodes [flowBetween id a]).flowEdges = [flowBetween id a] := by
    change ([flowBetween id a].filter (joins (nodesById nodes))).filter _ = _
    rw [List.filter_cons_of_pos hjoins]
    rfl
  have hclaims : ∀ g, (ofParts nodes [flowBetween id a]).Claims g a ↔ g.id = id := by
    intro g
    have hkind : (ofParts nodes [flowBetween id a]).hasKind a .activity := ha
    simp only [Claims, hflow, hkind, true_and, List.mem_singleton, exists_eq_left]
    exact ⟨fun h => h.1.symm, fun h => ⟨h.symm, rfl⟩⟩
  have hlast : ((ofParts nodes [flowBetween id a]).generators.filter
      fun g => (ofParts nodes [flowBetween id a]).Claims g a).getLast? = some last := by
    simp only [hclaims]
    exact hl
  rw [owners_get?, hlast]
  rfl

theorem idsMeanGenerators_of_ownersMeant (h : ∀ edges, OwnersMeant (ofParts nodes edges))
    (ha : (ofParts nodes []).hasKind a .activity) : IdsMeanGenerators (ofParts nodes []) := by
  intro id last hl
  obtain ⟨g, hg, hmeans, hname, hpath⟩ :=
    h [flowBetween id a] a last.name (owners_get?_flowBetween ha hl)
  change (ofParts nodes []).node? g.id = some g at hmeans
  rcases path_flowBetween hpath with rfl | rfl
  · -- the id of the activity means no generator
    obtain ⟨n, hn, hk⟩ := hasKind_iff.1 ha
    rw [hmeans] at hn
    cases hn
    rw [(mem_nodesOfKind.1 hg).2] at hk
    cases hk
  · exact ⟨g, hg, hmeans, hname⟩

/-- Every owner is the name of a drawn generator with a path to what it owns.  That it is the name
of one that its id means holds for all edges exactly if each id of a generator means a generator, of
the same name as the last one with that id, or if no id means an activity. -/
theorem owners_meant_iff (nodes : List Node) :
    (∀ edges a owner, (ofParts nodes edges).owners.get? a = some owner →
        ∃ g ∈ (ofParts nodes edges).generators,
          g.name = owner ∧ (ofParts nodes edges).WalksTo g a) ∧
      ((∀ edges, OwnersMeant (ofParts nodes edges)) ↔
        ((∃ a, (ofParts nodes []).hasKind a .activity) →
          IdsMeanGenerators (ofParts nodes []))) := by
  refine ⟨fun edges a owner => exists_of_owners_get?, ?_, ?_⟩
  · rintro h ⟨a, ha⟩
    exact idsMeanGenerators_of_ownersMeant h ha
  · intro h edges a owner ho
    have hkind : (ofParts nodes []).hasKind a .activity := by
      obtain ⟨g, -, -, hwalks⟩ := exists_of_owners_get? ho
      exact hwalks.1
    have hmean : IdsMeanGenerators (ofParts nodes edges) := h ⟨a, hkind⟩
    exact ownersMeant_of_idsMeanGenerators hmean a owner ho

/-- Two generators of one id, and an edge from that id to an activity. -/
def twoOfOneId : Diagram :=
  .ofParts
    [⟨"g", .text "generator", "First", []⟩, ⟨"g", .text "generator", "Second", []⟩,
      ⟨"a", .text "activity", "Serve", []⟩]
    [flowBetween "g" "a"]

/-- The edge leads from the first generator, and the second one owns the activity. -/
theorem second_of_one_id_owns :
    twoOfOneId.owners.get? "a" = some "Second" ∧
      (twoOfOneId.node? "g").map (·.name) = some "First" ∧ ¬OwnersMeant twoOfOneId := by
  have howns : twoOfOneId.owners.get? "a" = some "Second" := by decide +kernel
  have hfirst : (twoOfOneId.node? "g").map (·.name) = some "First" := by decide +kernel
  refine ⟨howns, hfirst, fun h => ?_⟩
  obtain ⟨g, hg, hmeans, hname, -⟩ := h "a" "Second" howns
  have hid : ∀ g ∈ twoOfOneId.generators, g.id = "g" := by decide +kernel
  rw [← hid g hg, hmeans, Option.map_some, hname] at hfirst
  exact absurd hfirst (by decide)

end Diagram

end FlowDiagram
