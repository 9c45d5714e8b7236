import FlowDiagram.Activity.Basic
import FlowDiagram.Proofs.OrderedMap
import Mathlib.Data.List.Nodup

/-! # Resources and requirements

The resources of a diagram are collected from its activities at once, the requirements of a record
from one activity alone.  Both leave out repeats, and they agree: the resources are what the records
require, each where it is first required.
-/

namespace FlowDiagram

/-- The names of the resources that a record requires. -/
def Activity.requiredNames (a : Activity) : List String := a.requirements.flatMap (·.resourceGroups)

theorem Node.flatMap_requirements (n : Node) :
    n.requirements.flatMap (·.resourceGroups) = keepFirst n.resources := by
  rw [requirements, List.flatMap_map, List.flatMap_singleton']

namespace Diagram

theorem requiredNames_lower (d : Diagram) (owners : OrderedMap String String) (n : Node) :
    (d.lower owners n).requiredNames = keepFirst n.resources :=
  n.flatMap_requirements

theorem map_type_resources (d : Diagram) :
    d.resources.map (·.type) = keepFirst (d.activities.flatMap Node.resources) := by
  rw [resources, List.map_map]
  exact List.map_id _

/-- What the records require is what the activities declare, repeats within an activity aside. -/
theorem flatMap_requiredNames (d : Diagram) (owners : OrderedMap String String) :
    (d.lowerAll owners).flatMap Activity.requiredNames =
      d.activities.flatMap fun n => keepFirst n.resources := by
  rw [lowerAll, List.flatMap_map]
  exact List.flatMap_congr fun n _ => d.requiredNames_lower owners n

/-- The types of the resources are the names that the records require, each where it first occurs. No
record requires a name twice.  So every required name is that of one resource, and every resource is
required; it is a group of its own. -/
theorem resources_are_required (d : Diagram) (owners : OrderedMap String String) :
    d.resources.map (·.type) =
        keepFirst ((d.lowerAll owners).flatMap Activity.requiredNames) ∧
      (∀ a ∈ d.lowerAll owners, a.requiredNames.Nodup) ∧
      (∀ r ∈ d.resources, r.type = r.group) ∧
      (∀ a ∈ d.lowerAll owners, ∀ name ∈ a.requiredNames,
        (d.resources.map (·.type)).count name = 1) ∧
      ∀ r ∈ d.resources, ∃ a ∈ d.lowerAll owners, r.type ∈ a.requiredNames := by
  have htypes : d.resources.map (·.type) =
      keepFirst ((d.lowerAll owners).flatMap Activity.requiredNames) := by
    rw [map_type_resources, flatMap_requiredNames, keepFirst_flatMap_keepFirst]
  refine ⟨htypes, ?_, ?_, ?_, ?_⟩
  · intro a ha
    obtain ⟨n, -, rfl⟩ := List.mem_map.1 ha
    rw [requiredNames_lower]
    exact nodup_keepFirst _
  · intro r hr
    obtain ⟨name, -, rfl⟩ := List.mem_map.1 hr
    rfl
  · intro a ha name hname
    rw [htypes]
    exact List.count_eq_one_of_mem (nodup_keepFirst _)
      (mem_keepFirst.2 (List.mem_flatMap.2 ⟨a, ha, hname⟩))
  · intro r hr
    have hmem : r.type ∈ d.resources.map (·.type) := List.mem_map_of_mem hr
    rw [htypes, mem_keepFirst] at hmem
    exact List.mem_flatMap.1 hmem

end Diagram

end FlowDiagram
