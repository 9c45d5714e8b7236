import FlowDiagram.Proofs.ModelDrawing
import FlowDiagram.Proofs.References
import Mathlib.Algebra.GroupWithZero.Nat

/-! # Activities under their handlers

The groups of activities by handler lose no activity and keep their order, and the clusters of a
drawing are the same groups.  What handles activities according to the records of a compiled model
is what the diagram assigns, the reserved name aside.
-/

namespace FlowDiagram

/-- Some groups of names are those of the records of activities by handler. -/
structure GroupsRecords (records : List Activity) (groups : OrderedMap String (List String)) :
    Prop where
  /-- There is a group for each handler, in the order in which the handlers are first seen. -/
  handlers : groups.keys = keepFirst (records.map (·.handlerType))
  /-- The group of a handler lists the records that name it, in order. -/
  ids : ∀ h ∈ groups.keys, groups.get? h = some ((records.filter (·.handlerType = h)).map (·.id))
  nonempty : ∀ ids ∈ groups.values, ids ≠ []
  /-- Every record is in one group, once. -/
  lossless : groups.values.flatten.Perm (records.map (·.id))
  sizes : (groups.values.map List.length).sum = records.length

theorem Model.groupsRecords (m : Model) : GroupsRecords m.activities m.handlerGroups where
  handlers := by
    rw [handlerGroups, keys_groupByKey, List.map_map]
    rfl
  ids h hh := by
    rw [handlerGroups, get?_groupByKey_of_mem hh, List.filter_map, List.map_map]
    rfl
  nonempty _ := ne_nil_of_mem_values_groupByKey
  lossless := by
    have hperm := flatten_values_groupByKey_perm (m.activities.map fun a => (a.handlerType, a.id))
    rwa [List.map_map] at hperm
  sizes := by
    have hperm := flatten_values_groupByKey_perm (m.activities.map fun a => (a.handlerType, a.id))
    rw [handlerGroups, ← List.length_flatten, hperm.length_eq, List.length_map, List.length_map]

theorem Model.clusters_eq_handlerGroups (m : Model) (shown : Drawing.Shown) :
    (m.drawing shown).clusters.map (fun c => (c.handler, c.boxes.map (·.id))) =
      m.handlerGroups.entries := by
  rw [drawing_clusters, handlerGroups, entries_groupByKey_map, List.map_map]
  refine List.map_congr_left fun h _ => ?_
  rw [Function.comp_apply, List.map_map]
  rfl

theorem readHandlerGroups_toValue (s : Scenario) :
    readHandlerGroups s.toValue = .ok s.model.handlerGroups := by
  have hmodel : s.toValue.requireField "model" = .ok s.model.toValue := rfl
  have hactivities : s.model.toValue.requireList "activities" =
    .ok (s.model.activities.map Activity.toValue) := rfl
  have hhandled := Drawing.mapM_map_eq_ok Activity.toValue
    (fun v => do return (← v.requireText "handlerType", ← v.requireText "id") :
      Value → Except RecordError _)
    (f := fun a => (a.handlerType, a.id)) (fun _ => rfl) s.model.activities
  simp only [readHandlerGroups, bind, Except.bind, hmodel, hactivities]
  simp only [bind, Except.bind] at hhandled
  rw [hhandled]
  rfl

namespace Diagram

/-- An entity is active just if some record of the compiled model has it as its handler. -/
theorem mem_activeEntities_iff_record (d : Diagram) (h : String) :
    h ∈ activeEntities d.owners ↔
      h ≠ unknownEntity ∧ ∃ a ∈ d.compile.activities, a.handlerType = h := by
  rw [mem_activeEntities]
  refine and_congr_right fun hne => ⟨exists_record_of_owner, ?_⟩
  rintro ⟨a, ha, rfl⟩
  obtain ⟨n, -, rfl⟩ := List.mem_map.1 ha
  change (d.owners.get? n.id).getD unknownEntity ≠ unknownEntity at hne
  change ∃ a, d.owners.get? a = some ((d.owners.get? n.id).getD unknownEntity)
  cases hget : d.owners.get? n.id with
  | none =>
    rw [hget] at hne
    exact absurd rfl hne
  | some owner => exact ⟨n.id, hget⟩

end Diagram

/-- The groups of activities by handler partition the records of a model and are the clusters of its
drawing, also when both are read from the model as an open value.  For a compiled model their keys
are the active entities and perhaps the reserved name. -/
theorem handler_groups_partition_records :
    (∀ (m : Model) (name description : Value) (shown : Drawing.Shown),
      GroupsRecords m.activities m.handlerGroups ∧
        readHandlerGroups (Scenario.toValue ⟨name, description, m⟩) = .ok m.handlerGroups ∧
        Drawing.read (Scenario.toValue ⟨name, description, m⟩) shown = .ok (m.drawing shown) ∧
        (m.drawing shown).clusters.map (fun c => (c.handler, c.boxes.map (·.id))) =
          m.handlerGroups.entries) ∧
    ∀ (d : Diagram) (h : String),
      h ∈ d.compile.handlerGroups.keys ∧ h ≠ unknownEntity ↔ h ∈ activeEntities d.owners := by
  constructor
  · intro m name description shown
    exact ⟨m.groupsRecords, readHandlerGroups_toValue ⟨name, description, m⟩,
      Drawing.read_toValue ⟨name, description, m⟩ shown, m.clusters_eq_handlerGroups shown⟩
  · intro d h
    rw [d.compile.groupsRecords.handlers, mem_keepFirst, List.mem_map,
      Diagram.mem_activeEntities_iff_record, and_comm]

end FlowDiagram
