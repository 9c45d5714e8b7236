import FlowDiagram.Proofs.References

/-! # Generators that connections leave out

A connection through a generator joins two activities and does not name the generator.  What the
generator does for the second activity is in that activity's record instead: it is initial, and it
belongs to a generator that starts it, if not to the one left out.
-/

namespace FlowDiagram.Diagram

variable {d : Diagram}

theorem isInitial_iff {n : Node} :
    d.isInitial n ↔ ∃ e ∈ d.edges, e.target = n.id ∧ d.hasKind e.source .generator := by
  simp only [isInitial, List.any_eq_true, mem_incoming, and_assoc]

theorem Inflow.claimed {source target : String} (h : Inflow d source target) :
    ∃ generator ∈ d.generators, ∃ started ∈ d.activities,
      started.name = target ∧ d.isInitial started ∧ d.Claims generator started.id := by
  cases h with
  | @through e onward s g t _ _ hg _ hgk honward hflow hfrom ht htk =>
    have hgid : g.id = e.target := (node?_eq_some hg).2
    have htid : t.id = onward.target := (node?_eq_some ht).2
    have hgenerator : d.hasKind onward.source .generator :=
      hasKind_iff.2 ⟨g, by rw [hfrom, hgid, hg], hgk⟩
    have hactivity : d.hasKind t.id .activity := hasKind_iff.2 ⟨t, by rw [htid, ht], htk⟩
    have honwardFlow : onward ∈ d.flowEdges := List.mem_filter.2 ⟨honward, by simp [hflow]⟩
    exact ⟨g, mem_nodesOfKind_of_node? hg hgk, t, mem_nodesOfKind_of_node? ht htk, rfl,
      isInitial_iff.2 ⟨onward, honward, htid.symm, hgenerator⟩,
      hactivity, onward, honwardFlow, hfrom, htid.symm⟩

theorem field?_attributes_of_initial {a : Activity} (h : a.initial = true) :
    a.toValue.field? "attributes" = some (.object [("initial", .bool true)]) := by
  obtain ⟨id, handlerType, initial, conditions, requirements⟩ := a
  cases h
  rfl

/-- Of a connection through a generator, the second activity has a record that says it is initial and
names a generator as its handler, and the first activity has a record too. -/
theorem inflow_ends_recorded {c : Connection} (hc : c ∈ d.connections)
    (hkind : c.kind = .startToInflow) :
    (∃ a ∈ d.lowerAll d.owners, a.id = c.target ∧
        a.toValue.field? "attributes" = some (.object [("initial", .bool true)]) ∧
        ∃ g ∈ d.generators, g.name = a.handlerType) ∧
      ∃ a ∈ d.lowerAll d.owners, a.id = c.source := by
  refine ⟨?_, exists_record_of_name (named_of_mem_connections hc).1⟩
  obtain ⟨kind, source, target⟩ := c
  cases hkind
  obtain ⟨g, hg, started, hstarted, hname, hinitial, hclaims⟩ :=
    (inflow_mem_connections.1 hc).claimed
  -- A claim may be overwritten, but only by the claim of another generator.
  obtain ⟨owner, howner, -, hget⟩ := exists_owner_of_claims hg hclaims
  refine ⟨d.lower d.owners started, List.mem_map_of_mem hstarted, hname,
    field?_attributes_of_initial hinitial, owner, howner, ?_⟩
  change owner.name = (d.owners.get? started.id).getD unknownEntity
  rw [hget, Option.getD_some]

/-- Two generators claim an activity, of which the first is fed by another activity.  A node that is
no activity has the id of the claimed one too. -/
def overtaken : Diagram :=
  .ofParts
    [⟨"a", .text "activity", "Ask", []⟩, ⟨"g1", .text "generator", "First", []⟩,
      ⟨"b", .text "activity", "Serve", []⟩, ⟨"b", .text "terminator", "End", []⟩,
      ⟨"g2", .text "generator", "Second", []⟩]
    [dependencyBetween "a" "g1", flowBetween "g1" "b", flowBetween "g2" "b"]

/-- The activity is connected through the first generator, although the second claims it last. -/
theorem overtaken_inflow_recorded :
    (⟨.startToInflow, "Ask", "Serve"⟩ : Connection) ∈ overtaken.connections ∧
      (∃ a ∈ overtaken.lowerAll overtaken.owners, a.id = "Serve" ∧
          a.toValue.field? "attributes" = some (.object [("initial", .bool true)]) ∧
          ∃ g ∈ overtaken.generators, g.name = a.handlerType) ∧
      ∃ a ∈ overtaken.lowerAll overtaken.owners, a.id = "Ask" := by
  have hc : (⟨.startToInflow, "Ask", "Serve"⟩ : Connection) ∈ overtaken.connections := by
    decide +kernel
  exact ⟨hc, inflow_ends_recorded hc rfl⟩

end FlowDiagram.Diagram
