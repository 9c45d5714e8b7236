import FlowDiagram.Entity.Relationship
import FlowDiagram.Proofs.Diagram
import FlowDiagram.Proofs.EntityNames
import FlowDiagram.Proofs.OrderedMap
import Mathlib.Data.List.Basic

/-! # Relationships, rule by rule

Three rules show that an entity owns another, two of them for an edge and one for a resource.  The
relationships of a diagram are what the rules show, edges before activities, each at its first
occurrence.  The rules for edges ask that both entities are active.  The rule for resources asks
that of the resource's entity alone, so an activity of an entity with the reserved name makes that
name an owner.
-/

namespace FlowDiagram

theorem mem_activeEntities {owners : OrderedMap String String} {h : String} :
    h ∈ activeEntities owners ↔ h ≠ unknownEntity ∧ ∃ a, owners.get? a = some h := by
  rw [activeEntities, mem_keepFirst, List.mem_filter, OrderedMap.mem_values, decide_eq_true_iff,
    and_comm]

namespace Relationship

variable (d : Diagram) (owners : OrderedMap String String)

/-- A dependency edge from an activity to a generator shows that the activity's entity owns the
generator's. -/
def ofDependency? (e : Edge) : Option Relationship := do
  let source ← d.node? e.source
  let target ← d.node? e.target
  let owner ← owners.get? source.id
  if e.isDependency ∧ source.kind = .activity ∧ target.kind = .generator ∧ owner ≠ target.name ∧
      owner ∈ activeEntities owners ∧ target.name ∈ activeEntities owners then
    some ⟨owner, target.name⟩
  else none

/-- A flow edge from a generator to an activity shows that the generator's entity owns the
activity's. -/
def ofFlow? (e : Edge) : Option Relationship := do
  let source ← d.node? e.source
  let target ← d.node? e.target
  let component ← owners.get? target.id
  if e.isDependency = false ∧ source.kind = .generator ∧ target.kind = .activity ∧
      component ≠ source.name ∧ source.name ∈ activeEntities owners ∧
      component ∈ activeEntities owners then
    some ⟨source.name, component⟩
  else none

/-- A resource of an activity shows that the activity's entity owns the one it refers to. -/
def ofResource? (a : Node) (resource : String) : Option Relationship := do
  let owner ← owners.get? a.id
  let entity ← matchEntity resource (activeEntities owners)
  if entity ≠ owner then some ⟨owner, entity⟩ else none

/-- All that the rules show, edge by edge and then resource by resource. -/
def shownPairs : List Relationship :=
  (d.edges.flatMap fun e => (ofDependency? d owners e).toList ++ (ofFlow? d owners e).toList) ++
    d.activities.flatMap fun a => a.resources.filterMap (ofResource? owners a)

/-- A relationship that one of the rules shows. -/
inductive Shown : Relationship → Prop where
  | byDependency {e : Edge} {source target : Node} {owner : String} :
      e ∈ d.edges → d.node? e.source = some source → d.node? e.target = some target →
      e.isDependency → source.kind = .activity → target.kind = .generator →
      owners.get? source.id = some owner → owner ≠ target.name →
      owner ∈ activeEntities owners → target.name ∈ activeEntities owners →
      Shown ⟨owner, target.name⟩
  | byFlow {e : Edge} {source target : Node} {component : String} :
      e ∈ d.edges → d.node? e.source = some source → d.node? e.target = some target →
      e.isDependency = false → source.kind = .generator → target.kind = .activity →
      owners.get? target.id = some component → component ≠ source.name →
      source.name ∈ activeEntities owners → component ∈ activeEntities owners →
      Shown ⟨source.name, component⟩
  | byResource {a : Node} {resource owner entity : String} :
      a ∈ d.activities → resource ∈ a.resources → owners.get? a.id = some owner →
      matchEntity resource (activeEntities owners) = some entity → entity ≠ owner →
      Shown ⟨owner, entity⟩

variable {d owners} {r : Relationship}

theorem ofDependency?_eq_some {e : Edge} :
    ofDependency? d owners e = some r ↔
      ∃ source, d.node? e.source = some source ∧ ∃ target, d.node? e.target = some target ∧
        ∃ owner, owners.get? source.id = some owner ∧
          (e.isDependency ∧ source.kind = .activity ∧ target.kind = .generator ∧
            owner ≠ target.name ∧ owner ∈ activeEntities owners ∧
            target.name ∈ activeEntities owners) ∧ ⟨owner, target.name⟩ = r := by
  simp only [ofDependency?, Option.bind_eq_bind, Option.bind_eq_some_iff,
    Option.ite_none_right_eq_some, Option.some.injEq]

theorem ofFlow?_eq_some {e : Edge} :
    ofFlow? d owners e = some r ↔
      ∃ source, d.node? e.source = some source ∧ ∃ target, d.node? e.target = some target ∧
        ∃ component, owners.get? target.id = some component ∧
          (e.isDependency = false ∧ source.kind = .generator ∧ target.kind = .activity ∧
            component ≠ source.name ∧ source.name ∈ activeEntities owners ∧
            component ∈ activeEntities owners) ∧ ⟨source.name, component⟩ = r := by
  simp only [ofFlow?, Option.bind_eq_bind, Option.bind_eq_some_iff,
    Option.ite_none_right_eq_some, Option.some.injEq]

theorem ofResource?_eq_some {a : Node} {resource : String} :
    ofResource? owners a resource = some r ↔
      ∃ owner, owners.get? a.id = some owner ∧
        ∃ entity, matchEntity resource (activeEntities owners) = some entity ∧
          entity ≠ owner ∧ ⟨owner, entity⟩ = r := by
  simp only [ofResource?, Option.bind_eq_bind, Option.bind_eq_some_iff,
    Option.ite_none_right_eq_some, Option.some.injEq]

theorem mem_shownPairs : r ∈ shownPairs d owners ↔ Shown d owners r := by
  simp only [shownPairs, List.mem_append, List.mem_flatMap, List.mem_filterMap, Option.mem_toList,
    ofDependency?_eq_some, ofFlow?_eq_some, ofResource?_eq_some]
  constructor
  · rintro (⟨e, he, ⟨s, hs, t, ht, o, ho, ⟨hd, hsk, htk, hne, hact, hact'⟩, rfl⟩ |
      ⟨s, hs, t, ht, c, hc, ⟨hd, hsk, htk, hne, hact, hact'⟩, rfl⟩⟩ |
      ⟨a, ha, res, hres, o, ho, m, hm, hne, rfl⟩)
    · exact .byDependency he hs ht hd hsk htk ho hne hact hact'
    · exact .byFlow he hs ht hd hsk htk hc hne hact hact'
    · exact .byResource ha hres ho hm hne
  · intro h
    cases h with
    | byDependency he hs ht hd hsk htk ho hne hact hact' =>
      exact Or.inl ⟨_, he, Or.inl ⟨_, hs, _, ht, _, ho, ⟨hd, hsk, htk, hne, hact, hact'⟩, rfl⟩⟩
    | byFlow he hs ht hd hsk htk hc hne hact hact' =>
      exact Or.inl ⟨_, he, Or.inr ⟨_, hs, _, ht, _, hc, ⟨hd, hsk, htk, hne, hact, hact'⟩, rfl⟩⟩
    | byResource ha hres ho hm hne =>
      exact Or.inr ⟨_, ha, _, hres, _, ho, _, hm, hne, rfl⟩

theorem Shown.ne (h : Shown d owners r) : r.owner ≠ r.component := by
  cases h with
  | byDependency _ _ _ _ _ _ _ hne => exact hne
  | byFlow _ _ _ _ _ _ _ hne => exact hne.symm
  | byResource _ _ _ _ hne => exact hne.symm

/-- The rules for edges are what is looked for on an edge, and no edge falls under both. -/
theorem ofEdge?_eq_rules (e : Edge) :
    ((d.resolve? e).bind (ofEdge? owners (activeEntities owners))).toList =
      (ofDependency? d owners e).toList ++ (ofFlow? d owners e).toList := by
  unfold Diagram.resolve? ofDependency? ofFlow?
  cases d.node? e.source with
  | none => rfl
  | some s =>
    cases d.node? e.target with
    | none => rfl
    | some t =>
      simp only [Option.bind_eq_bind, Option.bind_some, ofEdge?]
      split
      · next hd hs ht =>
        cases owners.get? s.id with
        | none => simp [hd]
        | some owner => simp [hd, hs, ht, between?, and_assoc]
      · next hd hs ht =>
        cases owners.get? t.id with
        | none => simp [hd]
        | some component => simp [hd, hs, ht, between?, and_assoc, @eq_comm _ component]
      · next hdep hflow =>
        symm
        simp only [Option.toList_none, List.append_eq_nil_iff, Option.toList_eq_nil_iff,
          Option.bind_eq_none_iff, ite_eq_right_iff]
        constructor
        · rintro owner - ⟨hd, hs, ht, -⟩
          exact (hdep hd hs ht).elim
        · rintro component - ⟨hd, hs, ht, -⟩
          exact (hflow hd hs ht).elim

theorem ofResources_eq_rule (a : Node) :
    ofResources owners (activeEntities owners) a = a.resources.filterMap (ofResource? owners a) := by
  unfold ofResources ofResource?
  cases owners.get? a.id with
  | none => simp
  | some owner =>
    refine List.filterMap_congr fun res _ => ?_
    cases matchEntity res (activeEntities owners) <;> rfl

end Relationship

namespace Diagram

open Relationship

/-- One list takes up what edges and then activities show, whatever rule shows it. -/
theorem relationships_eq_keepFirst (d : Diagram) (owners : OrderedMap String String) :
    d.relationships owners = keepFirst (shownPairs d owners) := by
  have hedges : d.endpoints.filterMap (ofEdge? owners (activeEntities owners)) =
      d.edges.flatMap fun e =>
        (ofDependency? d owners e).toList ++ (ofFlow? d owners e).toList := by
    rw [endpoints_eq_filterMap, List.filterMap_filterMap, List.filterMap_eq_flatMap_toList]
    exact List.flatMap_congr fun e _ => ofEdge?_eq_rules e
  have hactivities : d.activities.flatMap (ofResources owners (activeEntities owners)) =
      d.activities.flatMap fun a => a.resources.filterMap (ofResource? owners a) :=
    List.flatMap_congr fun a _ => ofResources_eq_rule a
  have hadd : d.endpoints.foldl (fun found p =>
      (ofEdge? owners (activeEntities owners) p).elim found (addNew found)) [] =
      (d.endpoints.filterMap (ofEdge? owners (activeEntities owners))).foldl keepNew [] := by
    rw [List.foldl_filterMap]
    congr 1
    funext found p
    cases ofEdge? owners (activeEntities owners) p <;> rfl
  rw [shownPairs, ← hedges, ← hactivities, keepFirst_eq_foldl, List.foldl_append, ← hadd,
    List.foldl_flatMap]
  rfl

theorem mem_relationships {d : Diagram} {owners : OrderedMap String String} {r : Relationship} :
    r ∈ d.relationships owners ↔ Shown d owners r := by
  rw [relationships_eq_keepFirst, mem_keepFirst, mem_shownPairs]

/-- The relationships are what the rules show, in that order and without repeats.  None is of an
entity with itself, and none that a rule shows is missing. -/
theorem relationships_follow_rules (d : Diagram) (owners : OrderedMap String String) :
    d.relationships owners = keepFirst (shownPairs d owners) ∧
      (d.relationships owners).Nodup ∧
      (∀ r ∈ d.relationships owners, r.owner ≠ r.component) ∧
      ∀ r, r ∈ d.relationships owners ↔ Shown d owners r := by
  refine ⟨d.relationships_eq_keepFirst owners, ?_, ?_, fun r => mem_relationships⟩
  · rw [relationships_eq_keepFirst]
    exact nodup_keepFirst _
  · intro r hr
    exact (mem_relationships.1 hr).ne

/-- A component is always active, and so is an owner unless it has the reserved name. -/
theorem active_of_mem_relationships {d : Diagram} {owners : OrderedMap String String}
    {r : Relationship} (hr : r ∈ d.relationships owners) :
    r.component ∈ activeEntities owners ∧
      (r.owner ∈ activeEntities owners ∨ r.owner = unknownEntity) := by
  cases mem_relationships.1 hr with
  | byDependency _ _ _ _ _ _ _ _ hact hact' => exact ⟨hact', Or.inl hact⟩
  | byFlow _ _ _ _ _ _ _ _ hact hact' => exact ⟨hact', Or.inl hact⟩
  | @byResource a _ owner _ _ _ ho hm =>
    refine ⟨mem_of_matchEntity hm, ?_⟩
    by_cases hu : owner = unknownEntity
    · exact Or.inr hu
    · exact Or.inl (mem_activeEntities.2 ⟨hu, a.id, ho⟩)

/-- Both ends of all relationships are active exactly if no activity of an entity with the reserved
name uses a resource that refers to an active entity. -/
theorem relationship_ends_active_iff (d : Diagram) (owners : OrderedMap String String) :
    (∀ r ∈ d.relationships owners,
        r.component ∈ activeEntities owners ∧
          (r.owner ∈ activeEntities owners ∨ r.owner = unknownEntity)) ∧
      ((∀ r ∈ d.relationships owners,
          r.owner ∈ activeEntities owners ∧ r.component ∈ activeEntities owners) ↔
        ∀ a ∈ d.activities, owners.get? a.id = some unknownEntity →
          ∀ resource ∈ a.resources, matchEntity resource (activeEntities owners) = none) := by
  refine ⟨fun r => active_of_mem_relationships, ?_, ?_⟩
  · intro h a ha hu resource hres
    rw [Option.eq_none_iff_forall_ne_some]
    intro entity hm
    have hne : entity ≠ unknownEntity := (mem_activeEntities.1 (mem_of_matchEntity hm)).1
    have hr := h _ (mem_relationships.2 (.byResource ha hres hu hm hne))
    exact (mem_activeEntities.1 hr.1).1 rfl
  · intro h r hr
    refine ⟨?_, (active_of_mem_relationships hr).1⟩
    cases mem_relationships.1 hr with
    | byDependency _ _ _ _ _ _ _ _ hact => exact hact
    | byFlow _ _ _ _ _ _ _ _ hact => exact hact
    | @byResource a resource owner _ ha hres ho hm =>
      refine mem_activeEntities.2 ⟨?_, a.id, ho⟩
      rintro rfl
      rw [h a ha ho resource hres] at hm
      cases hm

/-- A generator has the reserved name, and its activity uses the entity of another. -/
def reservedOwner : Diagram :=
  let flow (id source target : String) : Edge :=
    ⟨id, source, target, false, "True", .null, .null, .null⟩
  .ofParts
    [⟨"g1", .text "generator", unknownEntity, []⟩, ⟨"g2", .text "generator", "Clerk", []⟩,
      ⟨"a1", .text "activity", "Serve", [(.text "resources", .list [.text "Clerk"])]⟩,
      ⟨"a2", .text "activity", "Rest", []⟩]
    [flow "e1" "g1" "a1", flow "e2" "g2" "a2"]

theorem reserved_name_owns :
    ⟨unknownEntity, "Clerk"⟩ ∈ reservedOwner.relationships reservedOwner.owners ∧
      unknownEntity ∉ activeEntities reservedOwner.owners := by
  constructor
  · decide +kernel
  · intro h
    exact (mem_activeEntities.1 h).1 rfl

end Diagram

end FlowDiagram
