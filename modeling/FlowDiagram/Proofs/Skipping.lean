import FlowDiagram.Model.Compile
import FlowDiagram.Proofs.Diagram

/-! # Skipped entries leave no trace

A project may hold entries that are of no use: nodes without an id, edges without two ends, and
edges of which an end is the id of no node.  The first two are skipped when entries are read and the
last when the diagram is put together, each id compared by its display text.  Wherever such entries
are inserted, and however many, the project compiles to the same model.
-/

namespace FlowDiagram

/-- The second list is the first with further items inserted, for which `p` holds. -/
inductive Padded {α : Type} (p : α → Prop) : List α → List α → Prop where
  | nil : Padded p [] []
  | keep (x : α) {xs ys : List α} : Padded p xs ys → Padded p (x :: xs) (x :: ys)
  | insert {y : α} {xs ys : List α} : p y → Padded p xs ys → Padded p xs (y :: ys)

/-- A pass that gives nothing for the inserted items gives the same for both lists. -/
theorem Padded.filterMap_eq {α β : Type} {p : α → Prop} {f : α → Option β} {xs ys : List α}
    (h : Padded p xs ys) (hp : ∀ y, p y → f y = none) : ys.filterMap f = xs.filterMap f := by
  induction h with
  | nil => rfl
  | keep x _ ih => rw [List.filterMap_cons, List.filterMap_cons, ih]
  | insert hy _ ih => rw [List.filterMap_cons, hp _ hy, ih]

namespace Value

/-- The value is no mapping, or a mapping in which a field is missing or null. -/
inductive Lacks (name : String) : Value → Prop where
  | notMapping {v : Value} : (∀ fields, v ≠ .mapping fields) → Lacks name v
  | missing {fields : List (Value × Value)} : entry? name fields = none → Lacks name (.mapping fields)
  | null {fields : List (Value × Value)} :
      entry? name fields = some .null → Lacks name (.mapping fields)

/-- The value is a mapping in which a field is not null and has a display text. -/
inductive Shows (name s : String) : Value → Prop where
  | field {fields : List (Value × Value)} {v : Value} :
      entry? name fields = some v → v ≠ .null → v.display = s → Shows name s (.mapping fields)

theorem isNull_iff {v : Value} : v.isNull = true ↔ v = .null := by
  cases v <;> simp [isNull]

theorem lacks_iff {name : String} {v : Value} : v.Lacks name ↔ v.fieldOrNull name = .null := by
  constructor
  · intro h
    cases h with
    | notMapping hv => cases v <;> simp_all [fieldOrNull, field?]
    | missing h => simp [fieldOrNull, field?, h]
    | null h => simp [fieldOrNull, field?, h]
  · intro h
    cases v with
    | mapping fields =>
      cases he : entry? name fields with
      | none => exact .missing he
      | some w =>
        have hw : w = .null := by simpa [fieldOrNull, field?, he] using h
        exact .null (hw ▸ he)
    | _ => exact .notMapping (by simp)

theorem shows_iff {name s : String} {v : Value} :
    v.Shows name s ↔ v.fieldOrNull name ≠ .null ∧ (v.fieldOrNull name).display = s := by
  constructor
  · rintro ⟨he, hv, hs⟩
    simpa [fieldOrNull, field?, he] using ⟨hv, hs⟩
  · rintro ⟨hv, hs⟩
    cases v with
    | mapping fields =>
      cases he : entry? name fields with
      | none => simp [fieldOrNull, field?, he] at hv
      | some w =>
        rw [fieldOrNull, field?, he] at hv hs
        exact .field he hv hs
    | _ => exact absurd rfl hv

instance (name : String) (v : Value) : Decidable (v.Lacks name) :=
  decidable_of_iff ((v.fieldOrNull name).isNull = true) (isNull_iff.trans lacks_iff.symm)

instance (name s : String) (v : Value) : Decidable (v.Shows name s) :=
  decidable_of_iff (¬(v.fieldOrNull name).isNull = true ∧ (v.fieldOrNull name).display = s) <| by
    rw [shows_iff, isNull_iff]

end Value

/-- An edge entry without two ends, or with an end that is the id of no node entry. -/
inductive UnusableEdge (nodes : List Value) : Value → Prop where
  | noSource {raw : Value} : raw.Lacks "source" → UnusableEdge nodes raw
  | noTarget {raw : Value} : raw.Lacks "target" → UnusableEdge nodes raw
  | strangeSource {raw : Value} {s : String} :
      raw.Shows "source" s → (∀ n ∈ nodes, ¬n.Shows "id" s) → UnusableEdge nodes raw
  | strangeTarget {raw : Value} {s : String} :
      raw.Shows "target" s → (∀ n ∈ nodes, ¬n.Shows "id" s) → UnusableEdge nodes raw

/-- The value is the data of a project with two lists of entries, whatever other fields it has. -/
inductive Draws : Value → List Value → List Value → Prop where
  | project {fields parts : List (Value × Value)} {nodes edges : List Value} :
      Value.entry? "json" fields = some (.mapping parts) →
      Value.entry? "nodes" parts = some (.list nodes) →
      Value.entry? "edges" parts = some (.list edges) → Draws (.mapping fields) nodes edges

theorem Node.read?_eq_none {raw : Value} (h : raw.Lacks "id") : Node.read? raw = none := by
  rw [Value.lacks_iff, Value.fieldOrNull] at h
  unfold Node.read?
  cases hid : raw.field? "id" with
  | none => rfl
  | some v =>
    rw [hid, Option.getD_some] at h
    rw [h]

theorem Node.shows_of_read? {raw : Value} {n : Node} (h : Node.read? raw = some n) :
    raw.Shows "id" n.id := by
  rw [Value.shows_iff, Value.fieldOrNull]
  unfold Node.read? at h
  split at h
  · cases h
  · cases h
  · next v hnull hid =>
    cases h
    rw [hid]
    exact ⟨hnull, rfl⟩

theorem Edge.read?_eq_none {raw : Value} (h : raw.Lacks "source" ∨ raw.Lacks "target") :
    Edge.read? raw = none := by
  rw [Value.lacks_iff, Value.lacks_iff] at h
  exact if_pos (by simpa [Value.isNull_iff] using h)

theorem Edge.ends_of_read? {raw : Value} {e : Edge} (h : Edge.read? raw = some e) :
    e.source = (raw.fieldOrNull "source").display ∧
      e.target = (raw.fieldOrNull "target").display := by
  unfold Edge.read? at h
  split at h
  · cases h
  · unfold Edge.read Value.require at h
    rw [Value.fieldOrNull, Value.fieldOrNull]
    cases hs : raw.field? "source" with
    | none =>
      rw [hs] at h
      cases h
    | some source =>
      cases ht : raw.field? "target" with
      | none =>
        rw [hs, ht] at h
        cases h
      | some target =>
        rw [hs, ht] at h
        cases h
        exact ⟨rfl, rfl⟩

namespace Diagram

theorem joins_of_unusable {nodes : List Value} {raw : Value} {e : Edge}
    (h : UnusableEdge nodes raw) (he : Edge.read? raw = some e) :
    joins (nodesById (nodes.filterMap Node.read?)) e = false := by
  have hstrange : ∀ s, (∀ n ∈ nodes, ¬n.Shows "id" s) →
      ¬∃ n ∈ nodes.filterMap Node.read?, n.id = s := by
    rintro s hs ⟨n, hn, rfl⟩
    obtain ⟨entry, hentry, hread⟩ := List.mem_filterMap.1 hn
    exact hs entry hentry (Node.shows_of_read? hread)
  obtain ⟨hsource, htarget⟩ := Edge.ends_of_read? he
  rw [Bool.eq_false_iff, Ne, joins_iff, hsource, htarget]
  rintro ⟨hs, ht⟩
  cases h with
  | noSource h => simp [Edge.read?_eq_none (.inl h)] at he
  | noTarget h => simp [Edge.read?_eq_none (.inr h)] at he
  | strangeSource h hnone => exact hstrange _ hnone ((Value.shows_iff.1 h).2 ▸ hs)
  | strangeTarget h hnone => exact hstrange _ hnone ((Value.shows_iff.1 h).2 ▸ ht)

/-- The edges that join nodes are read from the same entries when unusable ones are inserted. -/
theorem filter_joins_padded {nodes edges edges' : List Value}
    (h : Padded (UnusableEdge nodes) edges edges') :
    (edges'.filterMap Edge.read?).filter (joins (nodesById (nodes.filterMap Node.read?))) =
      (edges.filterMap Edge.read?).filter (joins (nodesById (nodes.filterMap Node.read?))) := by
  rw [List.filter_filterMap, List.filter_filterMap]
  refine h.filterMap_eq fun raw hraw => ?_
  cases he : Edge.read? raw with
  | none => rfl
  | some e => rw [Option.filter_some, joins_of_unusable hraw he]; rfl

end Diagram

/-- A project compiles to the model of what can be read from its entries. -/
theorem compileProject_of_draws {project : Value} {nodes edges : List Value}
    (h : Draws project nodes edges) :
    compileProject project =
      .ok (Diagram.ofParts (nodes.filterMap Node.read?) (edges.filterMap Edge.read?)).compile := by
  obtain ⟨hgraph, hnodes, hedges⟩ := h
  simp only [compileProject, Diagram.ofProject, Value.field?, hgraph, Diagram.ofGraph,
    Value.fieldOrNull, hnodes, hedges, Option.getD_some]
  rfl

/-- Nodes without an id and edges without two ends that are ids of nodes may be inserted anywhere in
a project, and it compiles to the same model. -/
theorem compileProject_skips_unusable {project project' : Value}
    {nodes nodes' edges edges' : List Value}
    (hdraws : Draws project nodes edges) (hdraws' : Draws project' nodes' edges')
    (hnodes : Padded (Value.Lacks "id") nodes nodes')
    (hedges : Padded (UnusableEdge nodes) edges edges') :
    ∃ m, compileProject project = .ok m ∧ compileProject project' = .ok m := by
  refine ⟨_, compileProject_of_draws hdraws, ?_⟩
  rw [compileProject_of_draws hdraws', hnodes.filterMap_eq fun _ h => Node.read?_eq_none h,
    ← Diagram.ofParts_filter_joins, Diagram.filter_joins_padded hedges,
    Diagram.ofParts_filter_joins]

/-- The entry of an edge between two ids. -/
def edgeEntry (source target : Value) : Value := .object [("source", source), ("target", target)]

/-- A generator, whose id is a number, and an activity. -/
def numberedNodes : List Value :=
  [.object [("id", .int 1), ("type", .text "generator"), ("name", .text "Clerk")],
    .object [("id", .text "a"), ("type", .text "activity")]]

/-- An edge that names the generator by the text of its number. -/
def numberedEdges : List Value := [edgeEntry (.text "1") (.text "a")]

/-- The nodes with a null, an id that is null and a node without an id. -/
def numberedNodesAndMore : List Value :=
  [.null, .object [("id", .int 1), ("type", .text "generator"), ("name", .text "Clerk")],
    .object [("id", .null), ("type", .text "activity")],
    .object [("id", .text "a"), ("type", .text "activity")],
    .object [("type", .text "activity"), ("name", .text "Rest")]]

/-- The edge between edges that lack an end, a number, and edges from and to strange ids. -/
def numberedEdgesAndMore : List Value :=
  [edgeEntry (.text "1") .null, .int 42, edgeEntry (.text "1") (.text "a"),
    edgeEntry (.text "b") (.text "a"), .object [("target", .text "a")],
    edgeEntry (.int 1) (.bool true)]

def numberedProject : Value :=
  .object [("json", .object [("nodes", .list numberedNodes), ("edges", .list numberedEdges)])]

def numberedProjectAndMore : Value :=
  .object [("json", .object
    [("nodes", .list numberedNodesAndMore), ("edges", .list numberedEdgesAndMore)])]

theorem compileProject_numbered :
    Draws numberedProject numberedNodes numberedEdges ∧
      Draws numberedProjectAndMore numberedNodesAndMore numberedEdgesAndMore ∧
      Padded (Value.Lacks "id") numberedNodes numberedNodesAndMore ∧
      Padded (UnusableEdge numberedNodes) numberedEdges numberedEdgesAndMore ∧
      ∃ m, compileProject numberedProject = .ok m ∧
        compileProject numberedProjectAndMore = .ok m := by
  have hdraws : Draws numberedProject numberedNodes numberedEdges := .project rfl rfl rfl
  have hdraws' : Draws numberedProjectAndMore numberedNodesAndMore numberedEdgesAndMore :=
    .project rfl rfl rfl
  have hnodes : Padded (Value.Lacks "id") numberedNodes numberedNodesAndMore :=
    .insert (by decide) <| .keep _ <| .insert (by decide) <| .keep _ <| .insert (by decide) .nil
  have hb : ∀ n ∈ numberedNodes, ¬n.Shows "id" "b" := by decide +kernel
  have htrue : ∀ n ∈ numberedNodes, ¬n.Shows "id" "True" := by decide +kernel
  have hedges : Padded (UnusableEdge numberedNodes) numberedEdges numberedEdgesAndMore :=
    .insert (.noTarget (by decide)) <| .insert (.noSource (by decide)) <| .keep _ <|
      .insert (.strangeSource (s := "b") (by decide +kernel) hb) <|
        .insert (.noSource (by decide)) <|
          .insert (.strangeTarget (s := "True") (by decide +kernel) htrue) .nil
  exact ⟨hdraws, hdraws', hnodes, hedges, compileProject_skips_unusable hdraws hdraws' hnodes hedges⟩

end FlowDiagram
