import FlowDiagram.Diagram.Basic

/-! # Connections

A flow edge between two activities is a flow.  A dependency edge between them joins their starts
if it is attached to the left side of both, and otherwise their ends.  An edge from an activity to
a generator connects the activity to each activity that the generator starts, and the generator
does not appear; such a connection is listed once.  Other edges connect nothing.
-/

namespace FlowDiagram

inductive Connection.Kind where
  | startToInflow | startToStart | finishToFinish | flow
deriving DecidableEq, Repr

def Connection.Kind.name : Connection.Kind → String
  | startToInflow => "StartToInflow"
  | startToStart => "StartToStart"
  | finishToFinish => "FinishToFinish"
  | flow => "Flow"

/-- A connection between the activities with two names. -/
structure Connection where
  kind : Connection.Kind
  source : String
  target : String
deriving DecidableEq, Repr

/-- The kind of connection that a dependency edge stands for. -/
def Edge.dependencyKind (e : Edge) : Connection.Kind :=
  if e.sourceSide = some .left && e.targetSide = some .left then .startToStart
  else .finishToFinish

namespace Diagram

/-- The names of the activities that a generator starts, in edge order. -/
def startedBy (d : Diagram) (generator : String) : List String :=
  (d.outgoing generator).filterMap fun e =>
    if e.isDependency then none
    else
      match d.node? e.target with
      | some n => if n.kind = .activity then some n.name else none
      | none => none

/-- Connections found so far, with the pairs of names that inflows have joined. -/
structure Found where
  connections : List Connection
  inflows : List (String × String)

/-- Connect an activity to one that a generator starts, unless that has been done. -/
def Found.addInflow (f : Found) (source target : String) : Found :=
  if (source, target) ∈ f.inflows then f
  else ⟨f.connections ++ [⟨.startToInflow, source, target⟩], f.inflows ++ [(source, target)]⟩

def Found.add (f : Found) (c : Connection) : Found := { f with connections := f.connections ++ [c] }

/-- Add the connections that an edge stands for. -/
def Found.addEdge (d : Diagram) (f : Found) (p : Endpoints) : Found :=
  match p.source.kind, p.target.kind with
  | .activity, .generator =>
    (d.startedBy p.target.id).foldl (fun f started => f.addInflow p.source.name started) f
  | .activity, .activity =>
    let kind := if p.edge.isDependency then p.edge.dependencyKind else .flow
    f.add ⟨kind, p.source.name, p.target.name⟩
  | _, _ => f

/-- The connections of a diagram, in edge order. -/
def connections (d : Diagram) : List Connection :=
  (d.endpoints.foldl (Found.addEdge d) ⟨[], []⟩).connections

end Diagram

end FlowDiagram
