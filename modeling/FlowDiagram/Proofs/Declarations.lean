import FlowDiagram.Drawing.Mention
import FlowDiagram.Proofs.Outline
import FlowDiagram.Proofs.References
import Mathlib.Data.List.Count

/-! # Drawings declare what they join

The lines of nodes come from the records of activities and from the entities that relationships name,
and the lines of edges from connections and relationships, which are found apart from the records.
The lines are read back one by one, which tells how often each node is declared and where.  Since a
compiled model refers to its own activities only, every end of an edge is then a node of some line.
-/

namespace FlowDiagram

open Dot

namespace Drawing

/-- The id of an activity, as a line has it between quotes. -/
def activityId (name : String) : String := "activity." ++ escaped name

def entityId (name : String) : String := "entity." ++ escaped name

def clusterId (handler : String) : String := "cluster_" ++ escaped handler

/-- The entities that handle activities of a model. -/
def handlers (m : Model) : List String := keepFirst (m.activities.map (·.handlerType))

def shownRelationships (m : Model) (shown : Shown) : List Relationship :=
  if shown.relationships then m.relationships else []

def shownConnections (m : Model) (shown : Shown) : List Connection :=
  if shown.connections then m.connections else []

/-- The entities between which relationships are shown. -/
def related (m : Model) (shown : Shown) : List String :=
  keepFirst ((shownRelationships m shown).flatMap fun r => [r.owner, r.component])

/-- What declares the record of an activity: the cluster of its handler and its own id. -/
def recordNode (a : Activity) : Option String × String :=
  (some (clusterId a.handlerType), activityId a.id)

/-- The nodes that lines declare, each with the cluster that it is declared in. -/
def declared (mentions : List Mention) : List (Option String × String) :=
  mentions.filterMap Mention.node?

/-- The lines with these mentions declare every activity once, and what their edges join. -/
structure Declares (m : Model) (shown : Shown) (mentions : List Mention) : Prop where
  /-- One cluster begins for each handler. -/
  clusters : mentions.filterMap Mention.cluster? = (handlers m).map clusterId
  /-- The nodes are the records, handler by handler, and then the related entities. -/
  nodes : declared mentions =
    ((handlers m).flatMap fun h => (m.activities.filter (·.handlerType = h)).map recordNode) ++
      (related m shown).map fun name => (none, entityId name)
  /-- The edges are the relationships, and then the connections. -/
  edges : mentions.filterMap Mention.edge? =
    (shownRelationships m shown).map (fun r => (entityId r.owner, entityId r.component)) ++
      (shownConnections m shown).map fun c => (activityId c.source, activityId c.target)
  /-- There is one line within a cluster for each record, and it is in the cluster of its handler. -/
  records : ((declared mentions).filter (·.1.isSome)).Perm
    (m.activities.map recordNode)
  /-- As many lines declare the id of a record as there are records of that name. -/
  named : ∀ name, ((declared mentions).map Prod.snd).count (activityId name) =
    m.activities.countP (·.id = name)
  /-- One line declares each entity of a relationship, and it is outside of clusters. -/
  relationships : ∀ r ∈ shownRelationships m shown, ∀ name ∈ [r.owner, r.component],
    (none, entityId name) ∈ declared mentions ∧
      ((declared mentions).map Prod.snd).count (entityId name) = 1
  /-- Lines within clusters declare the activities of a connection. -/
  connections : ∀ c ∈ shownConnections m shown, ∀ name ∈ [c.source, c.target],
    ∃ h, (some (clusterId h), activityId name) ∈ declared mentions

section Lines

theorem takeQuoted_append {s : List Char} (h : Quotable s) (rest : List Char) :
    takeQuoted (s ++ '"' :: rest) = some (s, rest) := by
  induction h with
  | nil => rfl
  | char hquote hslash _ ih => simp [takeQuoted, hslash, ih]
  | taken _ ih => simp [takeQuoted, ih]

theorem takeId_quoted {id : String} (h : Quotable id.toList) (rest : List Char) :
    takeId ((quoted id).toList ++ rest) = some (id, rest) := by
  have hquoted : (quoted id).toList ++ rest = '"' :: (id.toList ++ '"' :: rest) := by
    simp [quoted]
  rw [hquoted, takeId, takeQuoted_append h]
  simp

theorem after?_append (first : String) (s : List Char) :
    after? first (first.toList ++ s) = some s := by
  simp [after?]

namespace Line

theorem read?_indent (line : String) : read? (indent line) = read? line := by
  simp [read?, indent]

/-- A line that begins with an id is read by what follows it. -/
theorem read?_quoted {id : String} (h : Quotable id.toList) (rest : String) :
    read? (quoted id ++ rest) = ofId? id rest.toList := by
  have hline : (quoted id ++ rest).toList.dropWhile (· = ' ') =
      (quoted id).toList ++ rest.toList := by
    simp [quoted]
  have hfirst : ((quoted id).toList ++ rest.toList).head? = some '"' := by
    simp [quoted]
  have hempty : (quoted id).toList ++ rest.toList ≠ [] := by
    simp [quoted]
  have hclosing : (quoted id).toList ++ rest.toList ≠ ['\x7d'] := by
    simp [quoted]
  rw [read?, hline, ofChars?, if_neg hempty, if_neg hclosing, if_pos hfirst, takeId_quoted h,
    Option.bind_some]

theorem read?_node {id : String} (h : Quotable id.toList) (attributes : String) :
    read? (quoted id ++ " [" ++ attributes) = some (.node id) := by
  rw [String.append_assoc, read?_quoted h, String.toList_append]
  rfl

theorem read?_edgeLine {source target : String} (hsource : Quotable source.toList)
    (htarget : Quotable target.toList) (attributes : String) :
    read? (edgeLine (quoted source) (quoted target) attributes) = some (.edge source target) := by
  have hrest : (" -> " ++ (quoted target ++ (" [" ++ (attributes ++ "];")))).toList =
      " -> ".toList ++ ((quoted target).toList ++ (" [".toList ++ (attributes ++ "];").toList)) := by
    simp
  simp only [edgeLine, String.append_assoc]
  rw [read?_quoted hsource, hrest, ofId?, after?_append]
  simp only [takeId_quoted htarget, Option.bind_some, ofAttributes?, after?_append, Option.map_some]

/-- A line that begins with a letter is read as one with a word. -/
theorem read?_word {c : Char} (hc : c.isAlpha = true) (s : List Char) :
    read? (String.ofList (c :: s)) = ofWord? (c :: s) := by
  have hblank : c ≠ ' ' := by
    rintro rfl
    cases hc
  have hquote : c ≠ '"' := by
    rintro rfl
    cases hc
  have hclosing : c ≠ '\x7d' := by
    rintro rfl
    cases hc
  simp [read?, ofChars?, hblank, hquote, hclosing]

theorem read?_opening {id : String} (h : Quotable id.toList) :
    read? ("subgraph " ++ quoted id ++ " \x7b") = some (.opening id) := by
  have hline : "subgraph " ++ quoted id ++ " \x7b" =
      String.ofList ('s' :: ("ubgraph ".toList ++ ((quoted id).toList ++ " \x7b".toList))) := by
    apply String.toList_inj.1
    simp
  have hafter : after? "subgraph "
      ('s' :: ("ubgraph ".toList ++ ((quoted id).toList ++ " \x7b".toList))) =
        some ((quoted id).toList ++ " \x7b".toList) := by
    simp [after?]
  rw [hline, read?_word (by decide), ofWord?, hafter]
  simp only [takeId_quoted h, Option.map_some]

theorem read?_label (s : String) : read? ("label=<" ++ s) = some .assign := by
  have hline : "label=<" ++ s = String.ofList ('l' :: ("abel=<".toList ++ s.toList)) := by
    apply String.toList_inj.1
    simp
  rw [hline, read?_word (by decide)]
  rfl

theorem read?_fillColor (s : String) : read? ("fillcolor=" ++ s) = some .assign := by
  have hline : "fillcolor=" ++ s = String.ofList ('f' :: ("illcolor=".toList ++ s.toList)) := by
    apply String.toList_inj.1
    simp
  rw [hline, read?_word (by decide)]
  rfl

end Line

theorem quotable_activityId (name : String) : Quotable (activityId name).toList :=
  Unmarked.quotable_name (by decide) name

theorem quotable_entityId (name : String) : Quotable (entityId name).toList :=
  Unmarked.quotable_name (by decide) name

theorem quotable_clusterId (handler : String) : Quotable (clusterId handler).toList :=
  Unmarked.quotable_name (by decide) handler

theorem read?_box (b : Box) : Line.read? b.line = some (.node (activityId b.id)) := by
  have hline : b.line = quoted (activityId b.id) ++ " [" ++
      ("shape=box,style=rounded,label=<" ++ b.label ++ ">];") := by
    apply String.toList_inj.1
    simp [Box.line, activityNode, activityId]
  rw [hline, Line.read?_node (quotable_activityId b.id)]

theorem read?_entity (name : String) :
    Line.read? (entityNode name ++ " [shape=ellipse,label=<" ++ bold name ++ ">];") =
      some (.node (entityId name)) := by
  have hline : entityNode name ++ " [shape=ellipse,label=<" ++ bold name ++ ">];" =
      quoted (entityId name) ++ " [" ++ ("shape=ellipse,label=<" ++ bold name ++ ">];") := by
    apply String.toList_inj.1
    simp [entityNode, entityId]
  rw [hline, Line.read?_node (quotable_entityId name)]

end Lines

section Reading

variable (place : Place) {place' : Place} {found : List Mention}

/-- A line is read wherever it stands, and gives what it mentions. -/
theorem takes_line {line : String} {l : Line} (hread : Line.read? line = some l)
    (hmentions : l.mentions? place = some (found, place')) :
    lineReader.Takes place [line] found place' := by
  apply Transducer.takes_item
  simp [lineReader, hread, hmentions]

theorem takes_indented {line : String} {l : Line} (hread : Line.read? line = some l)
    (hmentions : l.mentions? place = some (found, place')) :
    lineReader.Takes place [indent line] found place' :=
  takes_line place ((Line.read?_indent line).trans hread) hmentions

/-- What the lines of a part mention. -/
def mentionsOf : Outline.Part → List Mention
  | .cluster handler activities =>
    .cluster (clusterId handler) ::
      activities.map fun name => .node (some (clusterId handler)) (activityId name)
  | .entity name => [.node none (entityId name)]
  | .relationship r => [.edge (entityId r.owner) (entityId r.component)]
  | .arrow a => [.edge (activityId a.source) (activityId a.target)]

theorem takes_boxLines (handler : String) (boxes : List Box) :
    lineReader.Takes (.cluster handler) ((boxes.map fun b => indent (indent b.line)))
      (boxes.map fun b => .node (some handler) (activityId b.id)) (.cluster handler) := by
  rw [List.map_eq_flatMap, List.map_eq_flatMap]
  apply Transducer.takes_flatMap
  intro b _
  exact takes_indented _ ((Line.read?_indent b.line).trans (read?_box b)) rfl

theorem takes_fillLines (handler color : String) :
    lineReader.Takes (.cluster handler)
      [indent (indent "style=\"filled\""), indent (indent ("fillcolor=" ++ quoted color))] []
      (.cluster handler) := by
  have hstyle : Line.read? (indent "style=\"filled\"") = some .assign := by decide
  have hcolor : Line.read? (indent ("fillcolor=" ++ quoted color)) = some .assign := by
    rw [Line.read?_indent, Line.read?_fillColor]
  have hfirst := takes_indented (.cluster handler) hstyle rfl
  exact hfirst.append (takes_indented _ hcolor rfl)

/-- The lines of a cluster open and close it, and its boxes are declared in between. -/
theorem takes_clusterLines (c : Cluster) (fill : Option String) :
    lineReader.Takes .graph ((c.lines fill).map indent)
      (mentionsOf (.cluster c.handler (c.boxes.map (·.id)))) .graph := by
  have hopening := takes_indented .graph (Line.read?_opening (quotable_clusterId c.handler)) rfl
  have hlabel := takes_indented (.cluster (clusterId c.handler))
    ((Line.read?_indent _).trans (Line.read?_label (bold c.handler ++ ">"))) rfl
  have hclosing : Line.read? "\x7d" = some .closing := by decide
  have hhead := hopening.append hlabel
  have hrest := (takes_boxLines (clusterId c.handler) c.boxes).append (takes_indented _ hclosing rfl)
  cases fill with
  | none =>
    simpa [Cluster.lines, mentionsOf, clusterId, Function.comp_def, String.append_assoc] using
      hhead.append hrest
  | some color =>
    have hfill := takes_fillLines (clusterId c.handler) color
    simpa [Cluster.lines, mentionsOf, clusterId, Function.comp_def, String.append_assoc] using
      (hhead.append hfill).append hrest

/-- The lines of a statement mention what it shows, and leave no cluster open. -/
theorem takes_statementLines (s : Statement) :
    lineReader.Takes .graph (s.lines.map indent) (mentionsOf s.part) .graph := by
  cases s with
  | cluster c fill => exact takes_clusterLines c fill
  | entity name => exact takes_indented _ (read?_entity name) rfl
  | owns r =>
    exact takes_indented _
      (Line.read?_edgeLine (quotable_entityId r.owner) (quotable_entityId r.component) _) rfl
  | arrow a color =>
    exact takes_indented _
      (Line.read?_edgeLine (quotable_activityId a.source) (quotable_activityId a.target) _) rfl

theorem takes_sectionLines (statements : List Statement) :
    lineReader.Takes .graph ((statements.flatMap Statement.lines).map indent)
      (statements.flatMap fun s => mentionsOf s.part) .graph := by
  rw [List.map_flatMap]
  exact Transducer.takes_flatMap statements fun s _ => takes_statementLines s

theorem takes_laterSectionLines (statements : List Statement) :
    lineReader.Takes .graph (laterSection statements)
      (statements.flatMap fun s => mentionsOf s.part) .graph := by
  cases statements with
  | nil => exact Transducer.takes_nil
  | cons s statements =>
    have hempty : Line.read? "" = some .empty := by decide
    have hfeed := takes_line .graph hempty rfl
    exact hfeed.append (takes_sectionLines (s :: statements))

/-- What the lines of a drawing mention, in order. -/
def mentions (d : Drawing) : List Mention :=
  (d.clusters.flatMap fun c =>
    .cluster (clusterId c.handler) ::
      c.boxes.map fun b => .node (some (clusterId c.handler)) (activityId b.id)) ++
    d.entities.map (fun name => .node none (entityId name)) ++
    d.relationships.map (fun r => .edge (entityId r.owner) (entityId r.component)) ++
    d.arrows.map fun a => .edge (activityId a.source) (activityId a.target)

theorem flatMap_mentionsOf_statements (d : Drawing) (scheme : String) :
    (d.statements scheme).flatMap (fun s => mentionsOf s.part) = d.mentions := by
  have hparts := congrArg (List.flatMap mentionsOf) (map_part_statements d scheme)
  rw [List.flatMap_map] at hparts
  rw [hparts]
  simp [mentions, mentionsOf, List.flatMap_map, ← List.map_eq_flatMap, Function.comp_def]

theorem mentions?_lines (d : Drawing) (scheme : String) :
    mentions? (d.lines scheme) = some d.mentions := by
  have hbegin : Line.read? "strict digraph M \x7b" = some .head := by decide
  have hend : Line.read? "\x7d" = some .closing := by decide
  have hall := ((((takes_line .before hbegin rfl).append
    (takes_sectionLines (d.clusterStatements scheme))).append
    (takes_laterSectionLines d.relationshipStatements)).append
    (takes_laterSectionLines (colored 0 d.arrows))).append (takes_line _ hend rfl)
  have hrun : lineReader.run .before (d.lines scheme) = some (d.mentions, .after) := by
    rw [← flatMap_mentionsOf_statements d scheme, statements, List.flatMap_append,
      List.flatMap_append]
    simpa [lines, Transducer.Takes] using hall
  rw [mentions?, hrun]

theorem cluster?_mentions (d : Drawing) :
    d.mentions.filterMap Mention.cluster? = d.clusters.map fun c => clusterId c.handler := by
  simp [mentions, Mention.cluster?, List.filterMap_flatMap, Function.comp_def,
    ← List.map_eq_flatMap]

theorem declared_mentions (d : Drawing) :
    declared d.mentions =
      (d.clusters.flatMap fun c =>
        c.boxes.map fun b => (some (clusterId c.handler), activityId b.id)) ++
      d.entities.map fun name => (none, entityId name) := by
  simp [declared, mentions, Mention.node?, List.filterMap_flatMap, List.filterMap_cons,
    Function.comp_def]

theorem edge?_mentions (d : Drawing) :
    d.mentions.filterMap Mention.edge? =
      d.relationships.map (fun r => (entityId r.owner, entityId r.component)) ++
      d.arrows.map fun a => (activityId a.source, activityId a.target) := by
  simp [mentions, Mention.edge?, List.filterMap_flatMap, List.filterMap_cons,
    Function.comp_def]

end Reading

section Model

variable {m : Model} {shown : Shown}

theorem declared_drawing : declared (m.drawing shown).mentions =
    ((handlers m).flatMap fun h => (m.activities.filter (·.handlerType = h)).map recordNode) ++
      (related m shown).map fun name => (none, entityId name) := by
  have hboxes : ∀ h, ((m.activities.filter (·.handlerType = h)).map Box.ofActivity).map
      (fun b => (some (clusterId h), activityId b.id)) =
        (m.activities.filter (·.handlerType = h)).map recordNode := by
    intro h
    rw [List.map_map]
    apply List.map_congr_left
    intro a ha
    have hhandler : a.handlerType = h := by simpa using (List.mem_filter.1 ha).2
    simp [recordNode, Box.ofActivity, hhandler]
  rw [declared_mentions, Model.drawing_clusters, List.flatMap_map]
  simp only [hboxes]
  rfl

theorem edges_drawing : (m.drawing shown).mentions.filterMap Mention.edge? =
    (shownRelationships m shown).map (fun r => (entityId r.owner, entityId r.component)) ++
      (shownConnections m shown).map fun c => (activityId c.source, activityId c.target) := by
  have harrows : (m.drawing shown).arrows =
      (shownConnections m shown).map Arrow.ofConnection := by
    unfold Model.drawing shownConnections
    by_cases h : shown.connections <;> simp [h]
  rw [edge?_mentions, harrows, List.map_map]
  rfl

/-- The groups of the handlers make up the records. -/
theorem records_perm :
    ((handlers m).flatMap fun h => (m.activities.filter (·.handlerType = h)).map recordNode).Perm
      (m.activities.map recordNode) := by
  rw [← List.map_flatMap]
  apply List.Perm.map
  apply flatMap_filter_perm Activity.handlerType (nodup_keepFirst _)
  intro a ha
  exact mem_keepFirst.2 (List.mem_map_of_mem ha)

theorem declared_perm : (declared (m.drawing shown).mentions).Perm
    (m.activities.map recordNode ++ (related m shown).map fun name => (none, entityId name)) := by
  rw [declared_drawing]
  exact records_perm.append_right _

theorem activityId_injective : Function.Injective activityId := by
  intro x y h
  exact activityNode_injective (congrArg quoted h)

theorem entityId_injective : Function.Injective entityId := by
  intro x y h
  exact entityNode_injective (congrArg quoted h)

theorem activityId_ne_entityId (x y : String) : activityId x ≠ entityId y := by
  intro h
  exact activityNode_ne_entityNode x y (congrArg quoted h)

/-- The lines with an id declare records or related entities. -/
theorem count_node (id : String) :
    ((declared (m.drawing shown).mentions).map Prod.snd).count id =
      (m.activities.map fun a => activityId a.id).count id +
        ((related m shown).map entityId).count id := by
  rw [(declared_perm.map Prod.snd).count_eq, List.map_append, List.map_map, List.map_map,
    List.count_append]
  rfl

theorem count_activityId (name : String) :
    ((declared (m.drawing shown).mentions).map Prod.snd).count (activityId name) =
      m.activities.countP (·.id = name) := by
  have hentities : ((related m shown).map entityId).count (activityId name) = 0 := by
    rw [List.count_eq_zero, List.mem_map]
    rintro ⟨entity, -, h⟩
    exact activityId_ne_entityId name entity h.symm
  have hrecords : (m.activities.map fun a => activityId a.id).count (activityId name) =
      m.activities.countP (·.id = name) := by
    rw [List.count, List.countP_map]
    apply List.countP_congr
    intro a _
    simp [activityId_injective.eq_iff]
  rw [count_node, hrecords, hentities, Nat.add_zero]

theorem count_entityId {name : String} (h : name ∈ related m shown) :
    ((declared (m.drawing shown).mentions).map Prod.snd).count (entityId name) =
      1 := by
  have hentities : ((related m shown).map entityId).count (entityId name) = 1 := by
    rw [List.count_map_of_injective _ _ entityId_injective]
    exact List.count_eq_one_of_mem (nodup_keepFirst _) h
  have hrecords : (m.activities.map fun a => activityId a.id).count (entityId name) = 0 := by
    rw [List.count_eq_zero, List.mem_map]
    rintro ⟨a, -, ha⟩
    exact activityId_ne_entityId a.id name ha
  rw [count_node, hrecords, hentities]

/-- The lines of the drawing of a model declare what they join if connections name the records of
activities. -/
theorem declares_of_named (shown : Shown)
    (h : ∀ c ∈ m.connections, ∀ name ∈ [c.source, c.target], ∃ a ∈ m.activities, a.id = name) :
    Declares m shown (m.drawing shown).mentions where
  clusters := by
    rw [cluster?_mentions, Model.drawing_clusters, List.map_map]
    rfl
  nodes := declared_drawing
  edges := edges_drawing
  records := by
    rw [declared_drawing, List.filter_append, List.filter_flatMap]
    simpa [recordNode, List.filter_map, Function.comp_def] using records_perm (m := m)
  named := count_activityId
  relationships r hr name hname := by
    have hrelated : name ∈ related m shown :=
      mem_keepFirst.2 (List.mem_flatMap.2 ⟨r, hr, hname⟩)
    have hnode := List.mem_append_right (m.activities.map recordNode)
      (List.mem_map_of_mem (f := fun name => (none, entityId name)) hrelated)
    exact ⟨declared_perm.mem_iff.2 hnode, count_entityId hrelated⟩
  connections c hc name hname := by
    have hconnection : c ∈ m.connections := by
      unfold shownConnections at hc
      split at hc
      · exact hc
      · cases hc
    obtain ⟨a, ha, rfl⟩ := h c hconnection name hname
    have hnode := List.mem_append_left ((related m shown).map fun name => (none, entityId name))
      (List.mem_map_of_mem (f := recordNode) ha)
    exact ⟨a.handlerType, declared_perm.mem_iff.2 hnode⟩

end Model

/-- The model of a diagram can be drawn, whatever is shown and in whatever colours, and the lines that
the text of the drawing consists of declare the activities of the model and what the edges join. -/
theorem compile_declares_nodes (d : Diagram) (name description : Value) (shown : Shown)
    (scheme : String) :
    ∃ drawing found, read (Scenario.toValue ⟨name, description, d.compile⟩) shown = .ok drawing ∧
      drawing.text scheme = "\n".intercalate (drawing.lines scheme) ∧
      mentions? (drawing.lines scheme) = some found ∧ Declares d.compile shown found := by
  have hread := read_toValue ⟨name, description, d.compile⟩ shown
  have hlines := mentions?_lines (d.compile.drawing shown) scheme
  refine ⟨_, _, hread, rfl, hlines, declares_of_named shown ?_⟩
  intro c hc activity hactivity
  -- a connection names activities of the diagram, and each of these is lowered to a record
  obtain ⟨hsource, htarget⟩ := Diagram.named_of_mem_connections hc
  simp only [List.mem_cons, List.not_mem_nil, or_false] at hactivity
  rcases hactivity with rfl | rfl
  · exact Diagram.exists_record_of_name hsource
  · exact Diagram.exists_record_of_name htarget

end Drawing

end FlowDiagram
