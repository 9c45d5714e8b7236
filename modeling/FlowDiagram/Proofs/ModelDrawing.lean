import FlowDiagram.Drawing.Reader
import FlowDiagram.Proofs.Grouping
import FlowDiagram.Proofs.Lookups

/-! # Drawing what was compiled

A compiled model as an open value has every field that a drawing needs, so drawing it does not fail,
and what is drawn is what the model itself shows.
-/

namespace FlowDiagram

/-- The clusters of a model: the entities that handle activities, each with the boxes of those. -/
theorem Model.drawing_clusters (m : Model) (shown : Drawing.Shown) :
    (m.drawing shown).clusters =
      (keepFirst (m.activities.map (·.handlerType))).map fun h =>
        ⟨h, (m.activities.filter (·.handlerType = h)).map Drawing.Box.ofActivity⟩ := by
  rw [Model.drawing, entries_groupByKey_map, List.map_map]
  rfl

namespace Drawing

/-- An arrow is drawn for a connection. -/
theorem mem_arrows_drawing {m : Model} {shown : Shown} {a : Arrow}
    (h : a ∈ (m.drawing shown).arrows) : ∃ c ∈ m.connections, Arrow.ofConnection c = a := by
  change a ∈ if shown.connections then m.connections.map Arrow.ofConnection else [] at h
  split at h
  · exact List.mem_map.1 h
  · cases h

/-- Written values that can each be read are read together. -/
theorem mapM_map_eq_ok {ε α β γ : Type} (write : α → β) (read : β → Except ε γ) {f : α → γ}
    (h : ∀ x, read (write x) = .ok (f x)) (xs : List α) :
    (xs.map write).mapM read = .ok (xs.map f) := by
  rw [List.mapM_map]
  exact mapM_eq_ok fun x _ => h x

theorem requireTexts_toValue (r : Requirement) :
    r.toValue.requireTexts "resourceGroups" = .ok r.resourceGroups := by
  have hlist : r.toValue.requireList "resourceGroups" = .ok (r.resourceGroups.map .text) := rfl
  rw [Value.requireTexts, hlist]
  change (r.resourceGroups.map Value.text).mapM _ = _
  rw [mapM_map_eq_ok (f := id) Value.text _ fun _ => rfl, List.map_id]

theorem Box.read_toValue (a : Activity) : Box.read a.toValue = .ok (Box.ofActivity a) := by
  have hid : a.toValue.requireText "id" = .ok a.id := rfl
  have hattributes : a.toValue.requireField "attributes" =
    .ok (.object (if a.initial then [("initial", .bool true)] else [])) := rfl
  have hrequirements : a.toValue.requireList "requirements" =
    .ok (a.requirements.map Requirement.toValue) := rfl
  have hgroups := mapM_map_eq_ok Requirement.toValue (·.requireTexts "resourceGroups")
    requireTexts_toValue a.requirements
  have hinitial : ∃ v,
      (Value.object (if a.initial then [("initial", .bool true)] else [])).optionalField "initial" =
        .ok v ∧ v.truthy = a.initial := by
    cases a.initial <;> exact ⟨_, rfl, rfl⟩
  obtain ⟨v, hv, htruthy⟩ := hinitial
  rw [Box.read, hid, hattributes, hrequirements]
  simp only [bind, Except.bind, hv, hgroups, htruthy]
  rfl

theorem readRelationship_toValue (r : Relationship) : readRelationship r.toValue = .ok r := rfl

theorem Arrow.read_toValue (c : Connection) : Arrow.read c.toValue = .ok (Arrow.ofConnection c) := by
  obtain ⟨kind, source, target⟩ := c
  cases kind <;> rfl

theorem readClusters_toValue (activities : List Activity) :
    readClusters (activities.map Activity.toValue) =
      .ok ((keepFirst (activities.map (·.handlerType))).map fun h =>
        ⟨h, (activities.filter (·.handlerType = h)).map Box.ofActivity⟩) := by
  have hhandled := mapM_map_eq_ok Activity.toValue
    (fun v => do return (← v.requireText "handlerType", v) : Value → Except RecordError _)
    (fun _ => rfl) activities
  have hgroup : ∀ h : String,
      (do return Cluster.mk h (← ((activities.filter (·.handlerType = h)).map Activity.toValue).mapM
        Box.read) : Except RecordError Cluster) =
      .ok ⟨h, (activities.filter (·.handlerType = h)).map Box.ofActivity⟩ := by
    intro h
    rw [mapM_map_eq_ok _ _ Box.read_toValue]
    rfl
  rw [readClusters, hhandled]
  change ((groupByKey (activities.map fun a => (a.handlerType, a.toValue))).entries.mapM _) = _
  rw [entries_groupByKey_map]
  exact mapM_map_eq_ok _ _ hgroup _

theorem readPart_toValue {α β : Type} {read : Value → Except RecordError β} {write : α → Value}
    {f : α → β} (h : ∀ x, read (write x) = .ok (f x)) {model : Value} {name : String}
    {items : List α} (hitems : model.requireField name = .ok (.list (items.map write))) :
    readPart read model name = .ok (items.map f) := by
  cases items with
  | nil =>
    rw [readPart, hitems]
    rfl
  | cons x items =>
    have hlist : model.requireList name = .ok ((x :: items).map write) := by
      rw [Value.requireList, hitems]
      rfl
    rw [readPart, hitems]
    change ((model.requireList name).bind fun items => items.mapM read) = _
    rw [hlist]
    exact mapM_map_eq_ok write read h (x :: items)

/-- The drawing of a compiled model is read without a fault. -/
theorem read_toValue (s : Scenario) (shown : Shown) :
    read s.toValue shown = .ok (s.model.drawing shown) := by
  have hmodel : s.toValue.requireField "model" = .ok s.model.toValue := rfl
  have hactivities : s.model.toValue.requireList "activities" =
    .ok (s.model.activities.map Activity.toValue) := rfl
  have hclusters : readClusters (s.model.activities.map Activity.toValue) =
      .ok (s.model.drawing shown).clusters := by
    rw [readClusters_toValue, Model.drawing_clusters]
  have hrelationships : readPart readRelationship s.model.toValue "entityRelationships" =
      .ok (s.model.relationships.map id) := readPart_toValue readRelationship_toValue rfl
  have harrows : readPart Arrow.read s.model.toValue "connections" =
      .ok (s.model.connections.map Arrow.ofConnection) := readPart_toValue Arrow.read_toValue rfl
  rw [List.map_id] at hrelationships
  obtain ⟨connections, relationships⟩ := shown
  simp only [read, bind, Except.bind, hmodel, hactivities, hclusters, hrelationships, harrows]
  cases connections <;> cases relationships <;> rfl

end Drawing

end FlowDiagram
