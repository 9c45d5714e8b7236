import FlowDiagram.Model.Compile
import FlowDiagram.Proofs.Connections
import FlowDiagram.Proofs.Ownership
import FlowDiagram.Proofs.Relationships

/-! # A model refers to its own activities only

Connections hold names of activities, and relationships names of entities.  Both are found apart
from the records of the activities, and each of these names is nevertheless that of a record: an
entity that takes part in a relationship owns some activity, and only drawn activities are owned.
-/

namespace FlowDiagram

theorem Relationship.Shown.owned {d : Diagram} {owners : OrderedMap String String}
    {r : Relationship} (h : Shown d owners r) :
    (∃ a, owners.get? a = some r.owner) ∧ ∃ a, owners.get? a = some r.component := by
  cases h with
  | byDependency _ _ _ _ _ _ ho _ _ hact => exact ⟨⟨_, ho⟩, (mem_activeEntities.1 hact).2⟩
  | byFlow _ _ _ _ _ _ hc _ hact => exact ⟨(mem_activeEntities.1 hact).2, ⟨_, hc⟩⟩
  | byResource _ _ ho hm => exact ⟨⟨_, ho⟩, (mem_activeEntities.1 (mem_of_matchEntity hm)).2⟩

namespace Diagram

variable {d : Diagram} {a h : String}

/-- Only what means an activity has an owner. -/
theorem hasKind_of_owners_get? (ho : d.owners.get? a = some h) : d.hasKind a .activity := by
  obtain ⟨g, -, -, hwalks⟩ := exists_of_owners_get? ho
  exact hwalks.1

theorem exists_record_of_name {owners : OrderedMap String String} {name : String}
    (hn : ∃ n ∈ d.activities, n.name = name) : ∃ r ∈ d.lowerAll owners, r.id = name := by
  obtain ⟨n, hn, hname⟩ := hn
  exact ⟨d.lower owners n, List.mem_map_of_mem hn, hname⟩

theorem exists_record_of_owner (ho : ∃ a, d.owners.get? a = some h) :
    ∃ r ∈ d.lowerAll d.owners, r.handlerType = h := by
  obtain ⟨a, ho⟩ := ho
  obtain ⟨n, hn, rfl⟩ := exists_of_hasKind (hasKind_of_owners_get? ho)
  refine ⟨d.lower d.owners n, List.mem_map_of_mem hn, ?_⟩
  change (d.owners.get? n.id).getD unknownEntity = h
  rw [ho]
  rfl

/-- Both ends of every connection of a model are ids of its activity records, and both ends of every
relationship are entities that handle one of them. -/
theorem compile_refers_to_records (d : Diagram) :
    (∀ c ∈ d.compile.connections,
        (∃ a ∈ d.compile.activities, a.id = c.source) ∧
          ∃ a ∈ d.compile.activities, a.id = c.target) ∧
      ∀ r ∈ d.compile.relationships,
        (∃ a ∈ d.compile.activities, a.handlerType = r.owner) ∧
          ∃ a ∈ d.compile.activities, a.handlerType = r.component := by
  constructor
  · intro c hc
    obtain ⟨hs, ht⟩ := named_of_mem_connections hc
    exact ⟨exists_record_of_name hs, exists_record_of_name ht⟩
  · intro r hr
    obtain ⟨ho, hc⟩ := (mem_relationships.1 hr).owned
    exact ⟨exists_record_of_owner ho, exists_record_of_owner hc⟩

end Diagram

end FlowDiagram
