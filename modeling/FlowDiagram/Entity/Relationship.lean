import FlowDiagram.Entity.Name
import FlowDiagram.Ownership.Basic

/-! # Relationships between entities

An entity owns another if one of its activities has a dependency edge to the other's generator, if
its generator has a flow edge to an activity of the other, or if one of its activities uses a
resource named like the other.  Only active entities take part, none owns itself, and each
relationship is listed once, where it is first found.
-/

namespace FlowDiagram

structure Relationship where
  owner : String
  component : String
deriving DecidableEq, Repr

namespace Relationship

/-- The relationship of two different active entities. -/
def between? (active : List String) (owner component : String) : Option Relationship :=
  if owner ≠ component && owner ∈ active && component ∈ active then some ⟨owner, component⟩
  else none

/-- The relationship that an edge shows. -/
def ofEdge? (owners : OrderedMap String String) (active : List String) (p : Diagram.Endpoints) :
    Option Relationship :=
  match p.edge.isDependency, p.source.kind, p.target.kind with
  | true, .activity, .generator =>
    (owners.get? p.source.id).bind fun owner => between? active owner p.target.name
  | false, .generator, .activity =>
    (owners.get? p.target.id).bind fun component => between? active p.source.name component
  | _, _, _ => none

/-- The relationships that the resources of an activity show. -/
def ofResources (owners : OrderedMap String String) (active : List String) (a : Node) :
    List Relationship :=
  match owners.get? a.id with
  | none => []
  | some owner =>
    a.resources.filterMap fun resource =>
      match matchEntity resource active with
      | some entity => if entity ≠ owner then some ⟨owner, entity⟩ else none
      | none => none

/-- Add a relationship at the end unless it is there. -/
def addNew (found : List Relationship) (r : Relationship) : List Relationship :=
  if r ∈ found then found else found ++ [r]

end Relationship

namespace Diagram

/-- The relationships between the entities of a diagram, for given owners of its activities. -/
def relationships (d : Diagram) (owners : OrderedMap String String) : List Relationship :=
  let active := activeEntities owners
  let shownByEdges := d.endpoints.foldl (fun found p =>
    (Relationship.ofEdge? owners active p).elim found (Relationship.addNew found)) []
  d.activities.foldl (fun found a =>
    (Relationship.ofResources owners active a).foldl Relationship.addNew found) shownByEdges

end Diagram

end FlowDiagram
