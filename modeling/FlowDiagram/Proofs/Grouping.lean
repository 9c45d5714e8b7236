import FlowDiagram.Model.Grouping
import FlowDiagram.Proofs.OrderedMap
import Mathlib.Data.List.Basic

/-! # Groups

Grouping items by keys makes a group for each key, in the order in which the keys first occur, and
each group holds the items under its key in their order.  So no item is lost, and none is in two
groups.
-/

namespace FlowDiagram

namespace OrderedMap

variable {κ α : Type} [DecidableEq κ]

theorem entries_eq_map_keys {m : OrderedMap κ α} {f : κ → α}
    (h : ∀ k ∈ m.keys, m.get? k = some (f k)) : m.entries = m.keys.map fun k => (k, f k) := by
  rw [keys, List.map_map]
  refine (List.map_id m.entries).symm.trans (List.map_congr_left fun e he => ?_)
  have hget : m.get? e.1 = some e.2 := (lookup_eq_some_iff m.keys_nodup).2 he
  have hvalue := h e.1 (List.mem_map_of_mem he)
  rw [hget, Option.some.injEq] at hvalue
  rw [Function.comp_apply, ← hvalue]
  rfl

end OrderedMap

variable {α β : Type}

theorem keys_groupByKey (items : List (String × α)) :
    (groupByKey items).keys = keepFirst (items.map Prod.fst) := by
  have h := OrderedMap.keys_foldl_items (fun i : String × α => [i.1])
    (fun i o => o.getD [] ++ [i.2]) items .empty
  rw [← List.map_eq_flatMap] at h
  exact h

theorem get?_groupByKey (items : List (String × α)) (k : String) :
    ((groupByKey items).get? k).getD [] = (items.filter (·.1 = k)).map Prod.snd := by
  have grows : ∀ (is : List (String × α)) (m : OrderedMap String (List α)),
      ((is.foldl (fun m i => m.push i.1 i.2) m).get? k).getD [] =
        (m.get? k).getD [] ++ (is.filter (·.1 = k)).map Prod.snd := by
    intro is
    induction is with
    | nil => simp
    | cons i is ih =>
      intro m
      rw [List.foldl_cons, ih, OrderedMap.get?_push]
      by_cases h : i.1 = k
      · simp [h]
      · simp [h]
  rw [groupByKey, grows]
  rfl

theorem get?_groupByKey_of_mem {items : List (String × α)} {k : String}
    (hk : k ∈ (groupByKey items).keys) :
    (groupByKey items).get? k = some ((items.filter (·.1 = k)).map Prod.snd) := by
  cases hget : (groupByKey items).get? k with
  | none => exact absurd hk (OrderedMap.get?_eq_none_iff.1 hget)
  | some group => rw [← get?_groupByKey, hget, Option.getD_some]

/-- The groups, in order. -/
theorem entries_groupByKey (items : List (String × α)) :
    (groupByKey items).entries =
      (keepFirst (items.map Prod.fst)).map fun k => (k, (items.filter (·.1 = k)).map Prod.snd) := by
  rw [← keys_groupByKey]
  exact OrderedMap.entries_eq_map_keys fun k hk => get?_groupByKey_of_mem hk

theorem entries_groupByKey_map (key : β → String) (value : β → α) (items : List β) :
    (groupByKey (items.map fun i => (key i, value i))).entries =
      (keepFirst (items.map key)).map fun k => (k, (items.filter (key · = k)).map value) := by
  rw [entries_groupByKey, List.map_map]
  refine List.map_congr_left fun k _ => ?_
  rw [List.filter_map, List.map_map]
  rfl

/-- Of items under distinct keys, group by group, none is lost and none is there twice. -/
theorem flatMap_filter_perm {κ : Type} [DecidableEq κ] (key : α → κ) {ks : List κ} (hks : ks.Nodup)
    {items : List α} (hitems : ∀ i ∈ items, key i ∈ ks) :
    (ks.flatMap fun k => items.filter (key · = k)).Perm items := by
  induction ks generalizing items with
  | nil =>
    cases items with
    | nil => exact .nil
    | cons i items => simpa using hitems i
  | cons k ks ih =>
    rw [List.nodup_cons] at hks
    have hrest : ∀ i ∈ items.filter (fun i => !decide (key i = k)), key i ∈ ks := by
      intro i hi
      obtain ⟨hi, hne⟩ := List.mem_filter.1 hi
      exact (List.mem_cons.1 (hitems i hi)).resolve_left (by simpa using hne)
    have hgroups : ∀ k' ∈ ks, (items.filter fun i => !decide (key i = k)).filter (key · = k') =
        items.filter (key · = k') := by
      intro k' hk'
      rw [List.filter_filter]
      refine List.filter_congr fun i _ => ?_
      by_cases hi : key i = k'
      · have hne : k' ≠ k := fun h => hks.1 (h ▸ hk')
        simp [hi, hne]
      · simp [hi]
    rw [List.flatMap_cons, ← List.flatMap_congr hgroups]
    exact ((ih hks.2 hrest).append_left _).trans (List.filter_append_perm _ items)

/-- Of items that are grouped by their keys none is lost and none is there twice. -/
theorem flatten_values_groupByKey_perm (items : List (String × α)) :
    (groupByKey items).values.flatten.Perm (items.map Prod.snd) := by
  have hkeys : ∀ i ∈ items, i.1 ∈ keepFirst (items.map Prod.fst) := fun i hi =>
    mem_keepFirst.2 (List.mem_map_of_mem hi)
  have hvalues : (groupByKey items).values.flatten =
      ((keepFirst (items.map Prod.fst)).flatMap fun k => items.filter (·.1 = k)).map Prod.snd := by
    rw [OrderedMap.values, entries_groupByKey, List.map_map, List.map_flatMap, ← List.flatMap_def]
    rfl
  rw [hvalues]
  exact (flatMap_filter_perm Prod.fst (nodup_keepFirst _) hkeys).map Prod.snd

theorem ne_nil_of_mem_values_groupByKey {items : List (String × α)} {group : List α}
    (h : group ∈ (groupByKey items).values) : group ≠ [] := by
  obtain ⟨k, hget⟩ := OrderedMap.mem_values.1 h
  have hk : k ∈ (groupByKey items).keys := by
    by_contra hk
    rw [OrderedMap.get?_eq_none_iff.2 hk] at hget
    cases hget
  rw [get?_groupByKey_of_mem hk, Option.some.injEq] at hget
  rw [keys_groupByKey, mem_keepFirst] at hk
  obtain ⟨i, hi, rfl⟩ := List.mem_map.1 hk
  rw [← hget]
  exact List.ne_nil_of_mem (List.mem_map_of_mem (List.mem_filter.2 ⟨hi, by simp⟩))

end FlowDiagram
