import FlowDiagram.Model.Compile
import FlowDiagram.Proofs.Connections
import FlowDiagram.Proofs.Reachability
import Mathlib.Data.List.Forall2
import Mathlib.Data.List.Nodup

/-! # What compiling looks at

Of a node compiling looks at its kind, its name and its resources, and of an edge at its ends, its
sort, its condition and the kind of connection it may stand for.  Ids serve to find nodes and edges
and for nothing else.  So two diagrams that agree in this position by position, under an injective
map of ids, compile to the same model: an index finds nodes and edges that are alike, a walk expands
the ids that answer to each other in the same order, owners are assigned to them in the same order,
and what a model shows are names, which are the same.
-/

namespace FlowDiagram

section Forall₂

variable {α β γ : Type} {R : α → β → Prop} {xs : List α} {ys : List β}

theorem map_eq_of_forall₂ {f : α → γ} {g : β → γ} (h : List.Forall₂ R xs ys)
    (hfg : ∀ x y, R x y → g y = f x) : ys.map g = xs.map f := by
  induction h with
  | nil => rfl
  | cons hxy _ ih => rw [List.map_cons, List.map_cons, hfg _ _ hxy, ih]

theorem filterMap_eq_of_forall₂ {f : α → Option γ} {g : β → Option γ} (h : List.Forall₂ R xs ys)
    (hfg : ∀ x y, R x y → g y = f x) : ys.filterMap g = xs.filterMap f := by
  induction h with
  | nil => rfl
  | cons hxy _ ih => rw [List.filterMap_cons, List.filterMap_cons, hfg _ _ hxy, ih]

theorem filter_of_forall₂ {p : α → Bool} {q : β → Bool} (h : List.Forall₂ R xs ys)
    (hpq : ∀ x y, R x y → q y = p x) : List.Forall₂ R (xs.filter p) (ys.filter q) :=
  List.rel_filter (fun x y hxy => Bool.eq_iff_iff.1 (hpq x y hxy).symm) h

theorem foldl_eq_of_forall₂ {f : γ → α → γ} {g : γ → β → γ} (h : List.Forall₂ R xs ys)
    (hfg : ∀ c x y, R x y → g c y = f c x) (c : γ) : ys.foldl g c = xs.foldl f c := by
  induction h generalizing c with
  | nil => rfl
  | cons hxy _ ih => rw [List.foldl_cons, List.foldl_cons, hfg _ _ _ hxy, ih]

end Forall₂

namespace OrderedMap

universe u v

variable {κ : Type u} {α : Type v}

/-- The map under other keys. -/
def mapKeys (f : κ → κ) (hf : Function.Injective f) (m : OrderedMap κ α) : OrderedMap κ α where
  entries := m.entries.map (Prod.map f id)
  keys_nodup := by
    rw [List.map_map]
    change (m.entries.map (f ∘ Prod.fst)).Nodup
    rw [← List.map_map]
    exact m.keys_nodup.map hf

variable {f : κ → κ} (hf : Function.Injective f) (m : OrderedMap κ α)

theorem values_mapKeys : (m.mapKeys f hf).values = m.values := by
  simp [values, mapKeys]

variable [DecidableEq κ]

include hf in
theorem lookup_map_key (k : κ) (es : List (κ × α)) :
    lookup (f k) (es.map (Prod.map f id)) = lookup k es := by
  induction es with
  | nil => rfl
  | cons e es ih => simp [lookup, hf.eq_iff, ih]

include hf in
theorem alterEntries_map_key (g : Option α → α) (k : κ) (es : List (κ × α)) :
    alterEntries g (f k) (es.map (Prod.map f id)) = (alterEntries g k es).map (Prod.map f id) := by
  induction es with
  | nil => rfl
  | cons e es ih =>
    simp only [List.map_cons, alterEntries, Prod.map_fst, hf.eq_iff, ih]
    split <;> rfl

theorem get?_mapKeys (k : κ) : (m.mapKeys f hf).get? (f k) = m.get? k :=
  lookup_map_key hf k m.entries

theorem alter_mapKeys (k : κ) (g : Option α → α) :
    (m.mapKeys f hf).alter (f k) g = (m.alter k g).mapKeys f hf := by
  simp only [alter, mapKeys, alterEntries_map_key hf]

theorem foldl_alter_mapKeys (g : Option α → α) (ks : List κ) :
    (ks.map f).foldl (fun m k => m.alter k g) (m.mapKeys f hf) =
      (ks.foldl (fun m k => m.alter k g) m).mapKeys f hf := by
  induction ks generalizing m with
  | nil => rfl
  | cons k ks ih => rw [List.map_cons, List.foldl_cons, alter_mapKeys, ih, List.foldl_cons]

/-- Items that write the same under other keys leave the map under other keys. -/
theorem foldl_items_mapKeys {β : Type} {R : β → β → Prop} {keysOf keysOf' : β → List κ}
    {g : β → Option α → α} {items items' : List β} (h : List.Forall₂ R items items')
    (hkeys : ∀ i i', R i i' → keysOf' i' = (keysOf i).map f) (hg : ∀ i i', R i i' → g i' = g i) :
    items'.foldl (fun m i => (keysOf' i).foldl (fun m k => m.alter k (g i)) m)
        (m.mapKeys f hf) =
      (items.foldl (fun m i => (keysOf i).foldl (fun m k => m.alter k (g i)) m) m).mapKeys f hf := by
  induction h generalizing m with
  | nil => rfl
  | cons hi _ ih =>
    rw [List.foldl_cons, hkeys _ _ hi, hg _ _ hi, foldl_alter_mapKeys, ih, List.foldl_cons]

end OrderedMap

/-- The second node is the first under another id, in all that rules look at. -/
structure Node.Alike (f : String → String) (n n' : Node) : Prop where
  id : n'.id = f n.id
  kind : n'.kind = n.kind
  name : n'.name = n.name
  resources : n'.resources = n.resources

/-- The second edge is the first between other ids, in all that rules look at. -/
structure Edge.Alike (f : String → String) (e e' : Edge) : Prop where
  source : e'.source = f e.source
  target : e'.target = f e.target
  isDependency : e'.isDependency = e.isDependency
  condition : e'.condition = e.condition
  joinKind : e'.joinKind = e.joinKind

structure Diagram.Endpoints.Alike (f : String → String) (p p' : Diagram.Endpoints) : Prop where
  edge : p.edge.Alike f p'.edge
  source : p.source.Alike f p'.source
  target : p.target.Alike f p'.target

/-- The walk among other ids. -/
def Walk.rename (f : String → String) (w : Walk) : Walk := ⟨w.queue.map f, w.expanded.map f⟩

namespace Diagram

/-- The first node under an id is like the first one under the other id. -/
theorem find?_alike {f : String → String} (hf : Function.Injective f) {nodes nodes' : List Node}
    (h : List.Forall₂ (Node.Alike f) nodes nodes') (x : String) :
    Option.Rel (Node.Alike f) (nodes.find? (·.id == x)) (nodes'.find? (·.id == f x)) := by
  induction h with
  | nil => exact .none
  | @cons n n' _ _ hn _ ih =>
    rw [List.find?_cons, List.find?_cons, hn.id]
    by_cases hx : n.id = x
    · rw [hx, beq_self_eq_true, beq_self_eq_true]
      exact .some hn
    · rw [beq_false_of_ne hx, beq_false_of_ne fun hfx => hx (hf hfx)]
      exact ih

/-- The second diagram is the first under other ids, in all that rules look at. -/
structure Alike (f : String → String) (d d' : Diagram) : Prop where
  injective : Function.Injective f
  nodes : List.Forall₂ (Node.Alike f) d.nodes d'.nodes
  edges : List.Forall₂ (Edge.Alike f) d.edges d'.edges

namespace Alike

variable {f : String → String} {d d' : Diagram} (h : Alike f d d')

include h

theorem node? (x : String) : Option.Rel (Node.Alike f) (d.node? x) (d'.node? (f x)) := by
  rw [node?_eq_find?, node?_eq_find?]
  exact find?_alike h.injective h.nodes x

theorem outgoing (x : String) :
    List.Forall₂ (Edge.Alike f) (d.outgoing x) (d'.outgoing (f x)) := by
  rw [outgoing_eq_filter, outgoing_eq_filter]
  refine filter_of_forall₂ h.edges fun e e' he => ?_
  rw [he.source, h.injective.beq_eq]

theorem incoming (x : String) :
    List.Forall₂ (Edge.Alike f) (d.incoming x) (d'.incoming (f x)) := by
  rw [incoming_eq_filter, incoming_eq_filter]
  refine filter_of_forall₂ h.edges fun e e' he => ?_
  rw [he.target, h.injective.beq_eq]

theorem nodesOfKind (k : Node.Kind) :
    List.Forall₂ (Node.Alike f) (d.nodesOfKind k) (d'.nodesOfKind k) :=
  filter_of_forall₂ h.nodes fun n n' hn => by rw [hn.kind]

theorem hasKind (x : String) (k : Node.Kind) : d'.hasKind (f x) k = d.hasKind x k := by
  have hx := h.node? x
  unfold Diagram.hasKind
  generalize d.node? x = o, d'.node? (f x) = o' at hx
  cases hx with
  | none => rfl
  | some hn => simp only [hn.kind]

theorem canEnter (x : String) : d'.canEnter (f x) = d.canEnter x := by
  have hx := h.node? x
  unfold Diagram.canEnter
  generalize d.node? x = o, d'.node? (f x) = o' at hx
  cases hx with
  | none => rfl
  | some hn => simp only [hn.kind]

theorem resolve? {e e' : Edge} (he : e.Alike f e') :
    Option.Rel (Endpoints.Alike f) (d.resolve? e) (d'.resolve? e') := by
  have hs := h.node? e.source
  have ht := h.node? e.target
  unfold Diagram.resolve?
  rw [he.source, he.target]
  generalize d.node? e.source = s, d'.node? (f e.source) = s' at hs
  generalize d.node? e.target = t, d'.node? (f e.target) = t' at ht
  cases hs with
  | none => exact .none
  | some hs =>
    cases ht with
    | none => exact .none
    | some ht => exact .some ⟨he, hs, ht⟩

theorem endpoints : List.Forall₂ (Endpoints.Alike f) d.endpoints d'.endpoints := by
  rw [endpoints_eq_filterMap, endpoints_eq_filterMap]
  exact List.rel_filterMap (fun _ _ he => h.resolve? he) h.edges

/-- What some of the edges from an id lead to, for a choice of edges that does not look at ids. -/
theorem targets (x : String) {p p' : Edge → Bool} (hp : ∀ e e', e.Alike f e' → p' e' = p e) :
    ((d'.outgoing (f x)).filter p').map (·.target) =
      (((d.outgoing x).filter p).map (·.target)).map f := by
  rw [List.map_map]
  exact map_eq_of_forall₂ (filter_of_forall₂ (h.outgoing x) hp) fun _ _ he => he.target

theorem directActivities (x : String) :
    d'.directActivities (f x) = (d.directActivities x).map f :=
  h.targets x fun e e' he => by rw [he.isDependency, he.target, h.hasKind]

theorem successors (x : String) : d'.successors (f x) = (d.successors x).map f :=
  h.targets x fun e e' he => by rw [he.isDependency, he.target, h.canEnter]

theorem step? (w : Walk) : (w.rename f).step? d' = (w.step? d).map (Walk.rename f) := by
  obtain ⟨queue, expanded⟩ := w
  cases queue with
  | nil => rfl
  | cons id rest =>
    simp only [Walk.step?, Walk.rename, List.map_cons, List.mem_map_of_injective h.injective]
    split
    · rfl
    · simp [Walk.rename, h.successors]

theorem run (w : Walk) : (w.rename f).run d' = (w.run d).rename f := by
  fun_induction Walk.run d w with
  | case1 w hend => exact Walk.run_of_end (by rw [h.step?, hend, Option.map_none])
  | case2 w w' hnext ih =>
    rw [← ih]
    exact Walk.run_of_step? (by rw [h.step?, hnext, Option.map_some])

theorem walked (x : String) : d'.walked (f x) = (d.walked x).map f :=
  congrArg Walk.expanded (h.run (Walk.start x))

theorem reachableActivities (x : String) :
    d'.reachableActivities (f x) = (d.reachableActivities x).map f := by
  have hkind : (d'.hasKind · .activity) ∘ f = (d.hasKind · .activity) :=
    funext fun a => h.hasKind a .activity
  rw [Diagram.reachableActivities, h.walked, List.filter_map, hkind]
  rfl

theorem drawnReachable (x : String) : d'.drawnReachable (f x) = (d.drawnReachable x).map f := by
  have hids : d'.activities.map (·.id) = (d.activities.map (·.id)).map f := by
    rw [List.map_map]
    exact map_eq_of_forall₂ (h.nodesOfKind .activity) fun _ _ hn => hn.id
  have hreached : (fun a => decide (a ∈ (d.reachableActivities x).map f)) ∘ f =
      fun a => decide (a ∈ d.reachableActivities x) :=
    funext fun a => decide_eq_decide.2 (List.mem_map_of_injective h.injective)
  rw [Diagram.drawnReachable, h.reachableActivities, hids, List.filter_map, hreached]
  rfl

theorem directClaims : d'.directClaims = d.directClaims.mapKeys f h.injective :=
  OrderedMap.foldl_items_mapKeys h.injective .empty (h.nodesOfKind .generator)
    (fun g g' hg => by rw [hg.id, h.directActivities]) fun g g' hg => by rw [hg.name]

theorem owners : d'.owners = d.owners.mapKeys f h.injective := by
  rw [Diagram.owners, h.directClaims]
  exact OrderedMap.foldl_items_mapKeys h.injective d.directClaims (h.nodesOfKind .generator)
    (fun g g' hg => by rw [hg.id, h.drawnReachable]) fun g g' hg => by rw [hg.name]

theorem owners_get? (x : String) : d'.owners.get? (f x) = d.owners.get? x := by
  rw [h.owners, OrderedMap.get?_mapKeys]

theorem activeEntities : activeEntities d'.owners = activeEntities d.owners := by
  rw [FlowDiagram.activeEntities, h.owners, OrderedMap.values_mapKeys]
  rfl

theorem ofEdge? (active : List String) {p p' : Endpoints} (hp : p.Alike f p') :
    Relationship.ofEdge? d'.owners active p' = Relationship.ofEdge? d.owners active p := by
  simp only [Relationship.ofEdge?, hp.edge.isDependency, hp.source.kind, hp.target.kind,
    hp.source.id, hp.target.id, hp.source.name, hp.target.name, h.owners_get?]

theorem ofResources (active : List String) {a a' : Node} (ha : a.Alike f a') :
    Relationship.ofResources d'.owners active a' = Relationship.ofResources d.owners active a := by
  simp only [Relationship.ofResources, ha.id, ha.resources, h.owners_get?]

theorem relationships : d'.relationships d'.owners = d.relationships d.owners := by
  simp only [Diagram.relationships, h.activeEntities]
  rw [foldl_eq_of_forall₂ h.endpoints fun _ _ _ hp => by rw [h.ofEdge? _ hp]]
  exact foldl_eq_of_forall₂ (h.nodesOfKind .activity) (fun _ _ _ ha => by rw [h.ofResources _ ha]) _

theorem resources : d'.resources = d.resources := by
  have hmap : d'.activities.map Node.resources = d.activities.map Node.resources :=
    map_eq_of_forall₂ (h.nodesOfKind .activity) fun _ _ hn => hn.resources
  rw [Diagram.resources, List.flatMap_def, hmap, ← List.flatMap_def]
  rfl

theorem isInitial {n n' : Node} (hn : n.Alike f n') : d'.isInitial n' = d.isInitial n := by
  have hmap : (d'.incoming (f n.id)).map (fun e => d'.hasKind e.source .generator) =
      (d.incoming n.id).map fun e => d.hasKind e.source .generator :=
    map_eq_of_forall₂ (h.incoming n.id) fun e e' he => by rw [he.source, h.hasKind]
  rw [Diagram.isInitial, Diagram.isInitial, hn.id]
  simpa only [List.any_map, Function.id_comp] using congrArg (List.any · id) hmap

theorem conditions {n n' : Node} (hn : n.Alike f n') : d'.conditions n' = d.conditions n := by
  rw [Diagram.conditions, Diagram.conditions, conditionedEdges, conditionedEdges, hn.id]
  exact filterMap_eq_of_forall₂
    (filter_of_forall₂ (h.incoming n.id) fun e e' he => by rw [he.condition])
    fun e e' he => by rw [he.condition]

theorem lower {n n' : Node} (hn : n.Alike f n') :
    d'.lower d'.owners n' = d.lower d.owners n := by
  have howner : ownerOf d'.owners n'.id = ownerOf d.owners n.id := by
    rw [hn.id]
    exact congrArg (·.getD unknownEntity) (h.owners_get? n.id)
  simp only [Diagram.lower, howner, h.isInitial hn, h.conditions hn, hn.name, Node.requirements,
    hn.resources]

theorem lowerAll : d'.lowerAll d'.owners = d.lowerAll d.owners :=
  map_eq_of_forall₂ (h.nodesOfKind .activity) fun _ _ hn => h.lower hn

theorem startedBy (x : String) : d'.startedBy (f x) = d.startedBy x := by
  refine filterMap_eq_of_forall₂ (h.outgoing x) fun e e' he => ?_
  have ht := h.node? e.target
  rw [he.isDependency, he.target]
  generalize d.node? e.target = t, d'.node? (f e.target) = t' at ht
  cases ht with
  | none => rfl
  | some ht => simp only [ht.kind, ht.name]

theorem addEdge (found : Found) {p p' : Endpoints} (hp : p.Alike f p') :
    found.addEdge d' p' = found.addEdge d p := by
  have hkind := hp.edge.joinKind
  unfold Edge.joinKind at hkind
  simp only [Found.addEdge, hp.source.kind, hp.target.kind, hp.source.name, hp.target.name,
    hp.target.id, h.startedBy, hkind]

theorem connections : d'.connections = d.connections :=
  congrArg Found.connections
    (foldl_eq_of_forall₂ h.endpoints (fun found _ _ hp => h.addEdge found hp) ⟨[], []⟩)

/-- Diagrams that are alike compile to the same model. -/
theorem compile : d'.compile = d.compile := by
  simp only [Diagram.compile, h.relationships, h.resources, h.lowerAll, h.connections]

end Alike

/-- Lists of nodes and edges that are alike make diagrams that are. -/
theorem alike_ofParts {f : String → String} (hf : Function.Injective f) {nodes nodes' : List Node}
    {edges edges' : List Edge} (hnodes : List.Forall₂ (Node.Alike f) nodes nodes')
    (hedges : List.Forall₂ (Edge.Alike f) edges edges') :
    Alike f (ofParts nodes edges) (ofParts nodes' edges') where
  injective := hf
  nodes := hnodes
  edges := by
    have hsome : ∀ x, (nodes'.find? (·.id == f x)).isSome = (nodes.find? (·.id == x)).isSome := by
      intro x
      have hx := find?_alike hf hnodes x
      generalize nodes.find? (·.id == x) = o, nodes'.find? (·.id == f x) = o' at hx
      cases hx <;> rfl
    refine filter_of_forall₂ hedges fun e e' he => ?_
    simp only [joins, nodesById_get?, he.source, he.target, hsome]

end Diagram

/-- The two nodes have the same id, name and resources, and their types are the same or none of those
that rules look at. -/
structure Node.SameUse (n n' : Node) : Prop where
  id : n'.id = n.id
  name : n'.name = n.name
  resources : n'.resources = n.resources
  type : n'.type = n.type ∨
    ∀ t ∈ ["generator", "activity", "terminator"], n.type ≠ .text t ∧ n'.type ≠ .text t

/-- The two edges have the same ends, sort and condition, and if they are dependencies, then both or
neither are attached to the left side of both ends. -/
structure Edge.SameUse (e e' : Edge) : Prop where
  source : e'.source = e.source
  target : e'.target = e.target
  isDependency : e'.isDependency = e.isDependency
  condition : e'.condition = e.condition
  leftSides : e.isDependency = true →
    (e'.sourceSide = some .left ∧ e'.targetSide = some .left ↔
      e.sourceSide = some .left ∧ e.targetSide = some .left)

/-- A type that rules do not look at is of no kind of its own. -/
theorem Node.Kind.ofType_eq_other {type : Value}
    (h : ∀ t ∈ ["generator", "activity", "terminator"], type ≠ .text t) :
    Kind.ofType type = .other := by
  have hfalse : ∀ t ∈ ["generator", "activity", "terminator"], type.isText t = false := by
    intro t ht
    rw [Bool.eq_false_iff, Ne, Value.isText_iff]
    exact h t ht
  simp only [Kind.ofType, hfalse "generator" (by simp), hfalse "activity" (by simp),
    hfalse "terminator" (by simp), Bool.false_eq_true, if_false]

namespace Diagram

theorem node_alike {n n' : Node} (h : n.SameUse n') : n.Alike id n' where
  id := h.id
  kind := by
    rcases h.type with htype | hnone
    · rw [Node.kind, Node.kind, htype]
    · rw [Node.kind, Node.kind, Node.Kind.ofType_eq_other fun t ht => (hnone t ht).1,
        Node.Kind.ofType_eq_other fun t ht => (hnone t ht).2]
  name := h.name
  resources := h.resources

theorem edge_alike {e e' : Edge} (h : e.SameUse e') : e.Alike id e' where
  source := h.source
  target := h.target
  isDependency := h.isDependency
  condition := h.condition
  joinKind := by
    unfold Edge.joinKind
    rw [h.isDependency]
    split
    · next hdep =>
      simp only [Edge.dependencyKind, Bool.and_eq_true, decide_eq_true_eq, h.leftSides hdep]
    · rfl

/-- Ids, types and handles of edges, types of nodes that no rule looks at, and whatever else nodes
hold beside their resources may be changed at will, and a diagram compiles to the same model. -/
theorem compile_of_same_use {nodes nodes' : List Node} {edges edges' : List Edge}
    (hnodes : List.Forall₂ Node.SameUse nodes nodes')
    (hedges : List.Forall₂ Edge.SameUse edges edges') :
    (ofParts nodes' edges').compile = (ofParts nodes edges).compile :=
  (alike_ofParts Function.injective_id (hnodes.imp fun _ _ => node_alike)
    (hedges.imp fun _ _ => edge_alike)).compile

/-- A generator, two activities and a terminator, with a node of a type without rules among them. -/
def aroundRemark (type : Value) (more : List (Value × Value)) : List Node :=
  [⟨"g", .text "generator", "Clerk", more⟩,
    ⟨"a1", .text "activity", "Serve", (.text "resources", .list [.text "Desk", .int 1]) :: more⟩,
    ⟨"n", type, "Remark", more⟩, ⟨"a2", .text "activity", "Rest", []⟩,
    ⟨"x", .text "terminator", "Exit", more⟩]

/-- Flows, a dependency of left sides, one of other sides, and a flow to no node. -/
def joinedEdges (id : String) (type left side : Value) : List Edge :=
  [⟨id, "g", "a1", false, "True", type, side, left⟩,
    ⟨id, "a1", "n", false, "paid = True", type, left, left⟩,
    ⟨id, "n", "a2", false, "s > 5", type, side, side⟩,
    ⟨id, "a1", "a2", true, "", type, left, left⟩, ⟨id, "a2", "a1", true, "", type, left, side⟩,
    ⟨id, "a2", "y", false, "", type, left, left⟩]

theorem compile_aroundRemark :
    let nodes := aroundRemark (.text "event") []
    let nodes' := aroundRemark (.list [.null]) [(.text "duration", .int 5)]
    let edges := joinedEdges "e" .null (.text "a1-left-0") .null
    let edges' := joinedEdges "f" (.text "curved") (.text "-left-7") (.text "a-bottom-left-1")
    List.Forall₂ Node.SameUse nodes nodes' ∧ List.Forall₂ Edge.SameUse edges edges' ∧
      (ofParts nodes' edges').compile = (ofParts nodes edges).compile := by
  intro nodes nodes' edges edges'
  have hnodes : List.Forall₂ Node.SameUse nodes nodes' :=
    .cons ⟨rfl, rfl, rfl, .inl rfl⟩ <| .cons ⟨rfl, rfl, rfl, .inl rfl⟩ <|
      .cons ⟨rfl, rfl, rfl, .inr (by simp)⟩ <| .cons ⟨rfl, rfl, rfl, .inl rfl⟩ <|
        .cons ⟨rfl, rfl, rfl, .inl rfl⟩ .nil
  have hflow : ∀ {e e' : Edge}, e.isDependency = false → e'.source = e.source →
      e'.target = e.target → e'.isDependency = e.isDependency → e'.condition = e.condition →
      e.SameUse e' := fun hflow hs ht hdep hc => ⟨hs, ht, hdep, hc, by simp [hflow]⟩
  have hedges : List.Forall₂ Edge.SameUse edges edges' :=
    .cons (hflow rfl rfl rfl rfl rfl) <| .cons (hflow rfl rfl rfl rfl rfl) <|
      .cons (hflow rfl rfl rfl rfl rfl) <| .cons ⟨rfl, rfl, rfl, rfl, by decide +kernel⟩ <|
        .cons ⟨rfl, rfl, rfl, rfl, by decide +kernel⟩ <| .cons (hflow rfl rfl rfl rfl rfl) .nil
  exact ⟨hnodes, hedges, compile_of_same_use hnodes hedges⟩

end Diagram

end FlowDiagram
