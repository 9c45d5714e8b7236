import FlowDiagram.Diagram.Side
import FlowDiagram.OrderedMap
import FlowDiagram.Value.Display

/-! # Diagrams

A diagram is a list of nodes and a list of edges, with an index of the nodes by id and of the
edges by either end.  Ids may repeat; an edge means the first node with an id.  The indexes agree
with plain scans of the two lists, and both ends of every edge name a node.
-/

namespace FlowDiagram

structure Node where
  id : String
  type : Value
  name : String
  data : List (Value × Value)

namespace Node

/-- The types that rules look at. -/
inductive Kind where
  | generator | activity | terminator | other
deriving DecidableEq, Repr

def Kind.ofType (type : Value) : Kind :=
  if type.isText "generator" then generator
  else if type.isText "activity" then activity
  else if type.isText "terminator" then terminator
  else other

def kind (n : Node) : Kind := Kind.ofType n.type

/-- The names of the resources that the node declares, in order.  Entries that are no texts do
not count. -/
def resources (n : Node) : List String :=
  match Value.entry? "resources" n.data with
  | some (.list items) => items.filterMap Value.text?
  | some (.tuple items) => items.filterMap Value.text?
  | _ => []

def display (n : Node) : String :=
  "Node(" ++ Text.quoted n.id ++ ", " ++ n.type.literal ++ ", " ++ Text.quoted n.name ++ ")"

end Node

structure Edge where
  id : String
  source : String
  target : String
  isDependency : Bool
  condition : String
  edgeType : Value
  sourceHandle : Value
  targetHandle : Value

namespace Edge

def sourceSide (e : Edge) : Option Side := Side.ofHandle? e.sourceHandle

def targetSide (e : Edge) : Option Side := Side.ofHandle? e.targetHandle

def display (e : Edge) : String :=
  "Edge(" ++ Text.quoted e.source ++ " -> " ++ Text.quoted e.target ++ ", " ++
    (if e.isDependency then "dependency" else "flow") ++ ")"

end Edge

/-- The edges under each text that `key` gives them, in order. -/
def edgesBy (key : Edge → String) (edges : List Edge) : OrderedMap String (List Edge) :=
  edges.foldl (fun m e => m.push (key e) e) .empty

/-- The first node under each id. -/
def nodesById (nodes : List Node) : OrderedMap String Node :=
  nodes.foldl (fun m n => m.putNew n.id n) .empty

theorem edgesBy_get? (key : Edge → String) (edges : List Edge) (x : String) :
    ((edgesBy key edges).get? x).getD [] = edges.filter (key · == x) := by
  have grows : ∀ (es : List Edge) (m : OrderedMap String (List Edge)),
      ((es.foldl (fun m e => m.push (key e) e) m).get? x).getD [] =
        (m.get? x).getD [] ++ es.filter (key · == x) := by
    intro es
    induction es with
    | nil => simp
    | cons e es ih =>
      intro m
      rw [List.foldl_cons, ih, OrderedMap.get?_push]
      by_cases h : key e = x
      · simp [h]
      · simp [h]
  rw [edgesBy, grows]
  rfl

theorem nodesById_get? (nodes : List Node) (x : String) :
    (nodesById nodes).get? x = nodes.find? (·.id == x) := by
  have grows : ∀ (ns : List Node) (m : OrderedMap String Node),
      (ns.foldl (fun m n => m.putNew n.id n) m).get? x =
        (m.get? x).or (ns.find? (·.id == x)) := by
    intro ns
    induction ns with
    | nil => simp
    | cons n ns ih =>
      intro m
      rw [List.foldl_cons, ih, OrderedMap.get?_putNew]
      by_cases h : n.id = x
      · rw [if_pos h, h]
        cases m.get? x <;> simp [h]
      · simp [h]
  rw [nodesById, grows]
  rfl

structure Diagram where
  nodes : List Node
  edges : List Edge
  byId : OrderedMap String Node
  bySource : OrderedMap String (List Edge)
  byTarget : OrderedMap String (List Edge)
  byId_get? : ∀ x, byId.get? x = nodes.find? (·.id == x)
  bySource_get? : ∀ x, (bySource.get? x).getD [] = edges.filter (·.source == x)
  byTarget_get? : ∀ x, (byTarget.get? x).getD [] = edges.filter (·.target == x)
  edges_resolve : ∀ e ∈ edges, (byId.get? e.source).isSome ∧ (byId.get? e.target).isSome

namespace Diagram

/-- Both ends of the edge name a node. -/
def joins (byId : OrderedMap String Node) (e : Edge) : Bool :=
  (byId.get? e.source).isSome && (byId.get? e.target).isSome

/-- The diagram of a list of nodes and those of the edges that join them. -/
def ofParts (nodes : List Node) (edges : List Edge) : Diagram :=
  let byId := nodesById nodes
  let kept := edges.filter (joins byId)
  { nodes := nodes
    edges := kept
    byId := byId
    bySource := edgesBy Edge.source kept
    byTarget := edgesBy Edge.target kept
    byId_get? := nodesById_get? nodes
    bySource_get? := edgesBy_get? Edge.source kept
    byTarget_get? := edgesBy_get? Edge.target kept
    edges_resolve := fun e he => by simpa [joins] using (List.mem_filter.1 he).2 }

/-- The edges of which an end names no node. -/
def danglingEdges (nodes : List Node) (edges : List Edge) : List Edge :=
  edges.filter fun e => !joins (nodesById nodes) e

/-- The node that an id means. -/
def node? (d : Diagram) (id : String) : Option Node := d.byId.get? id

def nodesOfKind (d : Diagram) (k : Node.Kind) : List Node := d.nodes.filter (·.kind = k)

def generators (d : Diagram) : List Node := d.nodesOfKind .generator

def activities (d : Diagram) : List Node := d.nodesOfKind .activity

/-- The edges that leave the node with an id, in order. -/
def outgoing (d : Diagram) (id : String) : List Edge := (d.bySource.get? id).getD []

/-- The edges that enter the node with an id, in order. -/
def incoming (d : Diagram) (id : String) : List Edge := (d.byTarget.get? id).getD []

/-- The node that an id means is of a kind. -/
def hasKind (d : Diagram) (id : String) (k : Node.Kind) : Bool :=
  match d.node? id with
  | some n => n.kind = k
  | none => false

structure Endpoints where
  edge : Edge
  source : Node
  target : Node

/-- The edges with the nodes that their ends mean, in order. -/
def endpoints (d : Diagram) : List Endpoints :=
  d.edges.filterMap fun e =>
    match d.node? e.source, d.node? e.target with
    | some s, some t => some ⟨e, s, t⟩
    | _, _ => none

theorem node?_eq_find? (d : Diagram) (id : String) : d.node? id = d.nodes.find? (·.id == id) :=
  d.byId_get? id

theorem outgoing_eq_filter (d : Diagram) (id : String) :
    d.outgoing id = d.edges.filter (·.source == id) :=
  d.bySource_get? id

theorem incoming_eq_filter (d : Diagram) (id : String) :
    d.incoming id = d.edges.filter (·.target == id) :=
  d.byTarget_get? id

/-- No edge is lost when its ends are looked up. -/
theorem endpoints_map_edge (d : Diagram) : d.endpoints.map (·.edge) = d.edges := by
  have each : ∀ es : List Edge, (∀ e ∈ es, e ∈ d.edges) →
      (es.filterMap fun e =>
        match d.node? e.source, d.node? e.target with
        | some s, some t => some (Endpoints.mk e s t)
        | _, _ => none).map (·.edge) = es := by
    intro es
    induction es with
    | nil => simp
    | cons e es ih =>
      intro h
      obtain ⟨hs, ht⟩ := d.edges_resolve e (h e (by simp))
      obtain ⟨s, hs⟩ := Option.isSome_iff_exists.1 hs
      obtain ⟨t, ht⟩ := Option.isSome_iff_exists.1 ht
      have ih := ih fun e he => h e (by simp [he])
      simp only [List.filterMap_cons, node?, hs, ht, List.map_cons]
      exact congrArg (e :: ·) ih
  exact each d.edges fun _ h => h

end Diagram

end FlowDiagram
