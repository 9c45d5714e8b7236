import FlowDiagram.Model.Compile
import FlowDiagram.Proofs.Connections
import FlowDiagram.Proofs.Ownership

/-! # Independent parts of a diagram

A set of ids that no edge leads into or out of cuts a part out of a diagram.  Nothing that starts
inside it ever gets out, and nothing outside gets in: a node and its edges are the same in the part
and in the whole, paths stay inside, and so the part has the owners, the records and what its edges
connect from the whole.  Two diagrams without a common id are the two parts of the diagram that they
make together.
-/

namespace FlowDiagram.Diagram

/-- The first node with an id inside is the first of those inside. -/
theorem find?_filter_inside {inside : String → Bool} {x : String} (hx : inside x)
    (nodes : List Node) :
    (nodes.filter (inside ·.id)).find? (·.id == x) = nodes.find? (·.id == x) := by
  rw [List.find?_filter]
  congr 1
  funext n
  by_cases hid : n.id = x
  · simp [hid, hx]
  · simp [hid]

/-- The part of a diagram inside a set of ids that no edge leads into or out of. -/
structure PartOf (inside : String → Bool) (part d : Diagram) : Prop where
  nodes : part.nodes = d.nodes.filter (inside ·.id)
  edges : part.edges = d.edges.filter (inside ·.source)
  closed : ∀ e ∈ d.edges, inside e.source = inside e.target

namespace PartOf

variable {inside : String → Bool} {part d : Diagram} (h : PartOf inside part d)
variable {a x : String} {g n : Node} {e : Edge}

include h

theorem mem_edges : e ∈ part.edges ↔ e ∈ d.edges ∧ inside e.source := by
  rw [h.edges, List.mem_filter]

theorem mem_flowEdges : e ∈ part.flowEdges ↔ e ∈ d.flowEdges ∧ inside e.source := by
  rw [flowEdges, flowEdges, List.mem_filter, List.mem_filter, h.mem_edges, and_right_comm]

theorem closed_flow (he : e ∈ d.flowEdges) : inside e.source = inside e.target :=
  h.closed e (List.mem_filter.1 he).1

theorem node? (hx : inside x) : part.node? x = d.node? x := by
  rw [node?_eq_find?, node?_eq_find?, h.nodes, find?_filter_inside hx]

theorem hasKind (hx : inside x) (k : Node.Kind) : part.hasKind x k = d.hasKind x k := by
  rw [Diagram.hasKind, Diagram.hasKind, h.node? hx]

theorem canEnter (hx : inside x) : part.canEnter x = d.canEnter x := by
  rw [Diagram.canEnter, Diagram.canEnter, h.node? hx]

theorem nodesOfKind (k : Node.Kind) :
    part.nodesOfKind k = (d.nodesOfKind k).filter (inside ·.id) := by
  rw [Diagram.nodesOfKind, Diagram.nodesOfKind, h.nodes, List.filter_comm]

theorem incoming (hx : inside x) : part.incoming x = d.incoming x := by
  rw [incoming_eq_filter, incoming_eq_filter, h.edges, List.filter_filter]
  refine List.filter_congr fun e he => ?_
  by_cases ht : e.target = x
  · simp [h.closed e he, ht, hx]
  · simp [ht]

/-- A path that ends inside has never been outside. -/
theorem path_iff (ha : inside a) : Path d x a ↔ inside x ∧ Path part x a := by
  constructor
  · intro hp
    induction hp with
    | here => exact ⟨ha, .here⟩
    | onward _ he henter ih =>
      have hs : inside _ := (h.closed_flow he).trans ha
      obtain ⟨hx, hp⟩ := ih hs
      exact ⟨hx, hp.onward (h.mem_flowEdges.2 ⟨he, hs⟩) (by rwa [h.canEnter ha])⟩
  · rintro ⟨-, hp⟩
    induction hp with
    | here => exact .here
    | onward _ he henter ih =>
      obtain ⟨he, hs⟩ := h.mem_flowEdges.1 he
      exact (ih hs).onward he (by rwa [← h.canEnter ha])

theorem claims_iff (ha : inside a) : d.Claims g a ↔ inside g.id ∧ part.Claims g a := by
  unfold Claims
  rw [h.hasKind ha]
  constructor
  · rintro ⟨hkind, e, he, hs, rfl⟩
    have hin : inside e.source := (h.closed_flow he).trans ha
    exact ⟨hs ▸ hin, hkind, e, h.mem_flowEdges.2 ⟨he, hin⟩, hs, rfl⟩
  · rintro ⟨-, hkind, e, he, hs, ht⟩
    exact ⟨hkind, e, (h.mem_flowEdges.1 he).1, hs, ht⟩

theorem walksTo_iff (ha : inside a) : d.WalksTo g a ↔ inside g.id ∧ part.WalksTo g a := by
  rw [WalksTo, WalksTo, h.hasKind ha, h.path_iff ha, and_left_comm]

/-- Generators that are chosen inside only are the same in the part. -/
theorem filter_generators {p q : Node → Prop} [DecidablePred p] [DecidablePred q]
    (hpq : ∀ g, p g ↔ inside g.id ∧ q g) :
    part.generators.filter (q ·) = d.generators.filter (p ·) := by
  rw [generators, h.nodesOfKind, List.filter_filter]
  refine List.filter_congr fun g _ => ?_
  simp [hpq, Bool.and_comm]

/-- Whom an activity inside belongs to is settled inside. -/
theorem owners_get? (ha : inside a) : part.owners.get? a = d.owners.get? a := by
  rw [Diagram.owners_get?, Diagram.owners_get?, h.filter_generators fun _ => h.claims_iff ha,
    h.filter_generators fun _ => h.walksTo_iff ha]

theorem isInitial (hn : inside n.id) : part.isInitial n = d.isInitial n := by
  rw [Diagram.isInitial, Diagram.isInitial, h.incoming hn, Bool.eq_iff_iff, List.any_eq_true,
    List.any_eq_true]
  refine exists_congr fun e => and_congr_right fun he => ?_
  obtain ⟨he, ht⟩ := List.mem_filter.1 (d.incoming_eq_filter n.id ▸ he)
  have hs : inside e.source := by rw [h.closed e he, eq_of_beq ht, hn]
  rw [h.hasKind hs]

theorem lower (hn : inside n.id) : part.lower part.owners n = d.lower d.owners n := by
  have howner : ownerOf part.owners n.id = ownerOf d.owners n.id :=
    congrArg (·.getD unknownEntity) (h.owners_get? hn)
  have hconditions : part.conditions n = d.conditions n := by
    rw [conditions, conditions, conditionedEdges, conditionedEdges, h.incoming hn]
  rw [Diagram.lower, Diagram.lower, howner, h.isInitial hn, hconditions]

theorem lowerAll :
    part.lowerAll part.owners = (d.activities.filter (inside ·.id)).map (d.lower d.owners) := by
  rw [Diagram.lowerAll, activities, h.nodesOfKind]
  refine List.map_congr_left fun n hn => ?_
  exact h.lower (List.mem_filter.1 hn).2

theorem joined? (he : e ∈ part.edges) : part.joined? e = d.joined? e := by
  obtain ⟨he, hs⟩ := h.mem_edges.1 he
  have ht : inside e.target := by rw [← h.closed e he, hs]
  rw [Diagram.joined?, Diagram.joined?, h.node? hs, h.node? ht]

theorem passedOn (he : e ∈ part.edges) : part.passedOn e = d.passedOn e := by
  obtain ⟨he, hs⟩ := h.mem_edges.1 he
  have ht : inside e.target := by rw [← h.closed e he, hs]
  rw [Diagram.passedOn, Diagram.passedOn, h.edges, List.filterMap_filter]
  refine List.filterMap_congr fun onward honward => ?_
  split
  · next hin =>
    have hstarted : inside onward.target := by rw [← h.closed onward honward, hin]
    rw [passedOn?, passedOn?, h.node? hs, h.node? ht, h.node? hstarted]
  · next hout =>
    -- the generator is inside, so an edge that leaves it is too
    symm
    rw [Option.eq_none_iff_forall_ne_some]
    intro names hnames
    obtain ⟨-, -, generator, hg, -, -, ⟨-, -, -, hfrom, -⟩, -⟩ := passedOn?_eq_some.1 hnames
    rw [hfrom, (node?_eq_some hg).2] at hout
    exact hout ht

theorem connections : part.connections = d.addedInTurn [] part.edges := by
  rw [connections_eq_addedInTurn]
  exact addedInTurn_congr (fun _ => h.joined?) (fun _ => h.passedOn)

/-- What edges inside connect through generators starts at an activity inside. -/
theorem named_of_mem_passedOn {names : String × String}
    (hn : names ∈ part.edges.flatMap d.passedOn) : ∃ n ∈ part.activities, n.name = names.1 := by
  obtain ⟨source, target⟩ := names
  rw [← List.flatMap_congr fun _ => h.passedOn] at hn
  cases mem_flatMap_passedOn.1 hn with
  | through _ hs _ hsk => exact ⟨_, mem_nodesOfKind_of_node? hs hsk, rfl⟩

end PartOf

section TwoParts

variable {inside : String → Bool} {part₁ part₂ d : Diagram}
variable (h₁ : PartOf inside part₁ d) (h₂ : PartOf (!inside ·) part₂ d)

include h₁ h₂

/-- The records of a diagram are those of its two parts, if its nodes are. -/
theorem lowerAll_append (hnodes : d.nodes = part₁.nodes ++ part₂.nodes) :
    d.lowerAll d.owners = part₁.lowerAll part₁.owners ++ part₂.lowerAll part₂.owners := by
  have hactivities : d.activities =
      d.activities.filter (inside ·.id) ++ d.activities.filter (!inside ·.id) := by
    rw [activities, ← h₁.nodesOfKind, ← h₂.nodesOfKind, nodesOfKind, hnodes, List.filter_append]
    rfl
  rw [lowerAll, hactivities, List.map_append, ← h₁.lowerAll, ← h₂.lowerAll]

/-- The connections of a diagram are those of its two parts, if its edges are and no activities in
different parts have the same name. -/
theorem connections_append (hedges : d.edges = part₁.edges ++ part₂.edges)
    (hnames : ∀ n ∈ part₁.activities, ∀ m ∈ part₂.activities, n.name ≠ m.name) :
    d.connections = part₁.connections ++ part₂.connections := by
  have hdisjoint : ∀ names ∈ part₂.edges.flatMap d.passedOn,
      names ∉ part₁.edges.flatMap d.passedOn := by
    intro names hin₂ hin₁
    obtain ⟨n, hn, hname₁⟩ := h₁.named_of_mem_passedOn hin₁
    obtain ⟨m, hm, hname₂⟩ := h₂.named_of_mem_passedOn hin₂
    exact hnames n hn m hm (hname₁.trans hname₂.symm)
  calc d.connections
      = d.addedInTurn [] part₁.edges ++ d.addedInTurn (part₁.edges ++ []) part₂.edges := by
        rw [connections_eq_addedInTurn, hedges, addedInTurn_append, List.append_nil, List.nil_append]
    _ = d.addedInTurn [] part₁.edges ++ d.addedInTurn [] part₂.edges := by
        rw [addedInTurn_of_disjoint hdisjoint]
    _ = part₁.connections ++ part₂.connections := by rw [h₁.connections, h₂.connections]

end TwoParts

/-- A set of ids that no edge leads into or out of cuts a part out of a diagram. -/
theorem partOf_filter {inside : String → Bool} (nodes : List Node) {edges : List Edge}
    (hclosed : ∀ e ∈ edges, inside e.source = inside e.target) :
    PartOf inside (ofParts (nodes.filter (inside ·.id)) (edges.filter (inside ·.source)))
      (ofParts nodes edges) where
  nodes := rfl
  edges := by
    change (edges.filter _).filter _ = (edges.filter _).filter _
    rw [List.filter_filter, List.filter_filter]
    refine List.filter_congr fun e he => ?_
    by_cases hs : inside e.source
    · have ht : inside e.target := by rw [← hclosed e he, hs]
      simp [joins, nodesById_get?, find?_filter_inside hs, find?_filter_inside ht, hs]
    · simp [hs]
  closed e he := hclosed e (List.mem_filter.1 he).1

/-- Both ends of the edge are ids of the nodes. -/
def EndsAmong (nodes : List Node) (e : Edge) : Prop :=
  (∃ n ∈ nodes, n.id = e.source) ∧ ∃ n ∈ nodes, n.id = e.target

instance (nodes : List Node) (e : Edge) : Decidable (EndsAmong nodes e) :=
  inferInstanceAs (Decidable (_ ∧ _))

theorem edges_ofParts {nodes : List Node} {edges : List Edge}
    (h : ∀ e ∈ edges, EndsAmong nodes e) : (ofParts nodes edges).edges = edges :=
  List.filter_eq_self.2 fun e he => joins_iff.2 (h e he)

/-- A list of which only the first part is inside is split by taking what is. -/
theorem filter_append_inside {α : Type} {p : α → Bool} {xs ys : List α} (hxs : ∀ x ∈ xs, p x)
    (hys : ∀ y ∈ ys, p y = false) :
    (xs ++ ys).filter p = xs ∧ (xs ++ ys).filter (!p ·) = ys := by
  constructor
  · rw [List.filter_append, List.filter_eq_self.2 hxs,
      List.filter_eq_nil_iff.2 fun y hy => by simp [hys y hy], List.append_nil]
  · rw [List.filter_append, List.filter_eq_nil_iff.2 fun x hx => by simp [hxs x hx],
      List.filter_eq_self.2 fun y hy => by simp [hys y hy], List.nil_append]

section Join

variable {nodes₁ nodes₂ : List Node} {edges₁ edges₂ : List Edge}
variable (hends₁ : ∀ e ∈ edges₁, EndsAmong nodes₁ e) (hends₂ : ∀ e ∈ edges₂, EndsAmong nodes₂ e)

include hends₁ hends₂

theorem edges_join :
    (ofParts (nodes₁ ++ nodes₂) (edges₁ ++ edges₂)).edges =
      (ofParts nodes₁ edges₁).edges ++ (ofParts nodes₂ edges₂).edges := by
  rw [edges_ofParts hends₁, edges_ofParts hends₂, edges_ofParts]
  intro e he
  rcases List.mem_append.1 he with he | he
  · obtain ⟨⟨n, hn, hs⟩, m, hm, ht⟩ := hends₁ e he
    exact ⟨⟨n, by simp [hn], hs⟩, m, by simp [hm], ht⟩
  · obtain ⟨⟨n, hn, hs⟩, m, hm, ht⟩ := hends₂ e he
    exact ⟨⟨n, by simp [hn], hs⟩, m, by simp [hm], ht⟩

variable (hids : ∀ n ∈ nodes₁, ∀ m ∈ nodes₂, n.id ≠ m.id)

include hids

/-- Two diagrams without a common id are parts of the one that they make together. -/
theorem partOf_join :
    ∃ inside : String → Bool,
      PartOf inside (ofParts nodes₁ edges₁) (ofParts (nodes₁ ++ nodes₂) (edges₁ ++ edges₂)) ∧
        PartOf (!inside ·) (ofParts nodes₂ edges₂)
          (ofParts (nodes₁ ++ nodes₂) (edges₁ ++ edges₂)) := by
  let inside (x : String) : Bool := decide (∃ n ∈ nodes₁, n.id = x)
  have hin : ∀ {x}, (∃ n ∈ nodes₁, n.id = x) → inside x = true := decide_eq_true
  have hout : ∀ {x}, (∃ m ∈ nodes₂, m.id = x) → inside x = false := by
    rintro x ⟨m, hm, rfl⟩
    refine decide_eq_false ?_
    rintro ⟨n, hn, hid⟩
    exact hids n hn m hm hid
  obtain ⟨hnodes₁, hnodes₂⟩ : (nodes₁ ++ nodes₂).filter (inside ·.id) = nodes₁ ∧
      (nodes₁ ++ nodes₂).filter (!inside ·.id) = nodes₂ :=
    filter_append_inside (fun n hn => hin ⟨n, hn, rfl⟩) (fun m hm => hout ⟨m, hm, rfl⟩)
  obtain ⟨hedges₁, hedges₂⟩ : (edges₁ ++ edges₂).filter (inside ·.source) = edges₁ ∧
      (edges₁ ++ edges₂).filter (!inside ·.source) = edges₂ :=
    filter_append_inside (fun e he => hin (hends₁ e he).1) (fun e he => hout (hends₂ e he).1)
  have hclosed : ∀ e ∈ edges₁ ++ edges₂, inside e.source = inside e.target := by
    intro e he
    rcases List.mem_append.1 he with he | he
    · rw [hin (hends₁ e he).1, hin (hends₁ e he).2]
    · rw [hout (hends₂ e he).1, hout (hends₂ e he).2]
  refine ⟨inside, ?_, ?_⟩
  · have h := partOf_filter (nodes₁ ++ nodes₂) hclosed
    rwa [hnodes₁, hedges₁] at h
  · have hclosed' : ∀ e ∈ edges₁ ++ edges₂, (!inside e.source) = !inside e.target :=
      fun e he => congrArg (!·) (hclosed e he)
    have h : PartOf (!inside ·) _ _ := partOf_filter (nodes₁ ++ nodes₂) hclosed'
    rwa [hnodes₂, hedges₂] at h

end Join

/-- Of two diagrams without a common id, whose edges stay within their own nodes, each compiles as
if the other was not there: the activities of both together are those of the one and then those of
the other, and so are the connections, if no activity of the one has the name of one of the other. -/
theorem compile_independent_parts {nodes₁ nodes₂ : List Node} {edges₁ edges₂ : List Edge}
    (hids : ∀ n ∈ nodes₁, ∀ m ∈ nodes₂, n.id ≠ m.id)
    (hends₁ : ∀ e ∈ edges₁, EndsAmong nodes₁ e) (hends₂ : ∀ e ∈ edges₂, EndsAmong nodes₂ e) :
    (ofParts (nodes₁ ++ nodes₂) (edges₁ ++ edges₂)).compile.activities =
        (ofParts nodes₁ edges₁).compile.activities ++ (ofParts nodes₂ edges₂).compile.activities ∧
      ((∀ n ∈ nodes₁, ∀ m ∈ nodes₂, n.kind = .activity → m.kind = .activity → n.name ≠ m.name) →
        (ofParts (nodes₁ ++ nodes₂) (edges₁ ++ edges₂)).compile.connections =
          (ofParts nodes₁ edges₁).compile.connections ++
            (ofParts nodes₂ edges₂).compile.connections) := by
  obtain ⟨inside, h₁, h₂⟩ := partOf_join hends₁ hends₂ hids
  refine ⟨lowerAll_append h₁ h₂ rfl, fun hnames => ?_⟩
  refine connections_append h₁ h₂ (edges_join hends₁ hends₂) fun n hn m hm => ?_
  obtain ⟨hn, hnk⟩ := mem_nodesOfKind.1 hn
  obtain ⟨hm, hmk⟩ := mem_nodesOfKind.1 hm
  exact hnames n hn m hm hnk hmk

/-- Two generators and an activity of each, with ids of one letter more. -/
def relayNodes (mark first second : String) : List Node :=
  [⟨mark ++ "g", .text "generator", "Clerk", []⟩, ⟨mark ++ "a", .text "activity", first, []⟩,
    ⟨mark ++ "h", .text "generator", "Desk", []⟩, ⟨mark ++ "b", .text "activity", second, []⟩]

/-- The first activity feeds the second generator, and the second activity leads back to it. -/
def relayEdges (mark : String) : List Edge :=
  [flowBetween (mark ++ "g") (mark ++ "a"), dependencyBetween (mark ++ "a") (mark ++ "h"),
    flowBetween (mark ++ "h") (mark ++ "b"), flowBetween (mark ++ "b") (mark ++ "a")]

-- of two inflows between the same names the second is not listed
example :
    (ofParts (relayNodes "x" "Serve" "Rest" ++ relayNodes "y" "Serve" "Rest")
        (relayEdges "x" ++ relayEdges "y")).compile.connections =
      [⟨.startToInflow, "Serve", "Rest"⟩, ⟨.flow, "Rest", "Serve"⟩, ⟨.flow, "Rest", "Serve"⟩] := by
  decide +kernel

theorem compile_two_relays :
    (∀ n ∈ relayNodes "x" "Serve" "Rest", ∀ m ∈ relayNodes "y" "Ask" "Wait", n.id ≠ m.id) ∧
      (∀ e ∈ relayEdges "x", EndsAmong (relayNodes "x" "Serve" "Rest") e) ∧
      (∀ e ∈ relayEdges "y", EndsAmong (relayNodes "y" "Ask" "Wait") e) ∧
      (∀ n ∈ relayNodes "x" "Serve" "Rest", ∀ m ∈ relayNodes "y" "Ask" "Wait",
        n.kind = .activity → m.kind = .activity → n.name ≠ m.name) ∧
      (ofParts (relayNodes "x" "Serve" "Rest" ++ relayNodes "y" "Ask" "Wait")
          (relayEdges "x" ++ relayEdges "y")).compile.activities =
        (ofParts (relayNodes "x" "Serve" "Rest") (relayEdges "x")).compile.activities ++
          (ofParts (relayNodes "y" "Ask" "Wait") (relayEdges "y")).compile.activities ∧
      (ofParts (relayNodes "x" "Serve" "Rest" ++ relayNodes "y" "Ask" "Wait")
          (relayEdges "x" ++ relayEdges "y")).compile.connections =
        (ofParts (relayNodes "x" "Serve" "Rest") (relayEdges "x")).compile.connections ++
          (ofParts (relayNodes "y" "Ask" "Wait") (relayEdges "y")).compile.connections := by
  have hids : ∀ n ∈ relayNodes "x" "Serve" "Rest", ∀ m ∈ relayNodes "y" "Ask" "Wait",
      n.id ≠ m.id := by decide +kernel
  have hends₁ : ∀ e ∈ relayEdges "x", EndsAmong (relayNodes "x" "Serve" "Rest") e := by
    decide +kernel
  have hends₂ : ∀ e ∈ relayEdges "y", EndsAmong (relayNodes "y" "Ask" "Wait") e := by
    decide +kernel
  have hnames : ∀ n ∈ relayNodes "x" "Serve" "Rest", ∀ m ∈ relayNodes "y" "Ask" "Wait",
      n.kind = .activity → m.kind = .activity → n.name ≠ m.name := by decide +kernel
  have h := compile_independent_parts hids hends₁ hends₂
  exact ⟨hids, hends₁, hends₂, hnames, h.1, h.2 hnames⟩

end FlowDiagram.Diagram
