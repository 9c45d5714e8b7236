import FlowDiagram.Drawing.Dot
import FlowDiagram.Drawing.Outline
import FlowDiagram.Proofs.DotText
import FlowDiagram.Proofs.ModelDrawing

/-! # The text of a drawing gives its outline

Names stand in the text of a drawing within quotes and within markup.  Whatever they hold, each line
is read as the statement that it was written for, and from the statements the outline of the drawing
comes back: the names themselves, in order, and nothing else.
-/

namespace FlowDiagram

open Dot

namespace Drawing

/-- The statement of DOT that a box is written as. -/
def Box.written (b : Box) : Dot.Statement :=
  .node ("activity." ++ escaped b.id)
    [("shape", .word "box"), ("style", .word "rounded"), ("label", .markup b.label)]

/-- What a filled cluster has beside its label. -/
def fillWritten : Option String → List Dot.Statement
  | some color => [.assign "style" (.quoted "filled"), .assign "fillcolor" (.quoted color)]
  | none => []

def Arrow.writtenAttributes (a : Arrow) (color : String) : Attributes :=
  [("color", .word color), ("fontcolor", .word color)] ++
    if a.kind = "" then [] else [("label", .quoted a.kind)]

/-- The statements of DOT that a statement of a drawing is written as. -/
def Statement.written : Statement → List Dot.Statement
  | cluster c fill =>
    [.subgraph ("cluster_" ++ escaped c.handler), .assign "label" (.markup (bold c.handler))] ++
      fillWritten fill ++ c.boxes.map Box.written ++ [.close]
  | entity name =>
    [.node ("entity." ++ escaped name)
      [("shape", .word "ellipse"), ("label", .markup (bold name))]]
  | owns r =>
    [.edge ("entity." ++ escaped r.owner) ("entity." ++ escaped r.component)
      [("label", .quoted "owns"), ("style", .word "dashed")]]
  | arrow a color =>
    [.edge ("activity." ++ escaped a.source) ("activity." ++ escaped a.target)
      (a.writtenAttributes color)]

/-- What stands in a statement without being escaped can be read. -/
def Statement.Plain : Statement → Prop
  | cluster _ (some color) => Unmarked color
  | arrow a color => IsWord color ∧ Unmarked a.kind
  | _ => True

section Lines

/-- A name after a start that needs no escape is read as one token. -/
theorem scans_name {start : String} (hstart : Unmarked start) (name : String) :
    Scans .outside (quoted (start ++ escaped name)) [.id (.quoted (start ++ escaped name))]
      .outside :=
  scans_quoted (hstart.quotable_name name)

theorem scans_activityNode (name : String) :
    Scans .outside (activityNode name) [.id (.quoted ("activity." ++ escaped name))] .outside :=
  scans_name (by decide) name

theorem scans_entityNode (name : String) :
    Scans .outside (entityNode name) [.id (.quoted ("entity." ++ escaped name))] .outside :=
  scans_name (by decide) name

theorem balanced_bold (name : String) : Balanced (bold name).toList := by
  have hopen : Balanced "<b>".toList := balanced_tag (s := "b") (by decide)
  have hclose : Balanced "</b>".toList := balanced_tag (s := "/b") (by decide)
  rw [bold, String.toList_append, String.toList_append]
  exact (hopen.append (unbracketed_markup name).balanced).append hclose

theorem balanced_label (b : Box) : Balanced b.label.toList := by
  have hbreak : Balanced "<br/>".toList := balanced_tag (s := "br/") (by decide)
  have hinitial : Balanced "<i>initial</i>".toList :=
    ((balanced_tag (s := "i") (by decide)).append
      (Unbracketed.balanced (s := "initial") (by decide))).append
        (balanced_tag (s := "/i") (by decide))
  have hleft : Balanced "<br align=\"left\"/>".toList :=
    balanced_tag (s := "br align=\"left\"/") (by decide)
  rw [Box.label, String.toList_append, String.toList_append]
  refine ((balanced_bold b.id).append ?_).append (balanced_intercalate .nil ?_)
  · split
    · exact hbreak.append hinitial
    · exact .nil
  · intro part hpart
    obtain ⟨groups, -, rfl⟩ := List.mem_map.1 hpart
    rw [String.toList_append]
    exact hleft.append (unbracketed_markup _).balanced

/-- Markup at the end of a list of attributes is read with what follows it. -/
theorem scans_lastMarkup (s : String) :
    Scans (.markup 0 s.toList) ">];" [.id (.markup s), .closeBracket, .semicolon] .outside := by
  have hend : Scans (.markup 0 s.toList) ">];"
      [.id (.markup (String.ofList s.toList)), .closeBracket, .semicolon] .outside := by rfl
  rwa [String.ofList_toList] at hend

theorem scans_box (b : Box) : Scans .outside b.line b.written.tokens .outside := by
  have hattributes : Scans .outside " [shape=box,style=rounded,label=<"
      [.openBracket, .id (.word "shape"), .equals, .id (.word "box"), .comma, .id (.word "style"),
        .equals, .id (.word "rounded"), .comma, .id (.word "label"), .equals] (.markup 0 []) := by
    rfl
  exact (((scans_activityNode b.id).append hattributes).append
    (scans_balanced (balanced_label b))).append (scans_lastMarkup b.label)

theorem scans_indent {line : String} {ts : List Token} (h : Scans .outside line ts .outside) :
    Scans .outside (indent line) ts .outside := by
  have hindent : Scans .outside "    " [] .outside := by rfl
  exact hindent.append h

theorem lexed_indent {lines : List String} {ts : List Token} (h : Lexed lines ts) :
    Lexed (lines.map indent) ts := by
  induction h with
  | nil => exact .nil
  | cons hline _ ih => exact .cons (scans_indent hline) ih

theorem scans_label (name : String) :
    Scans .outside ("label=<" ++ bold name ++ ">")
      (Dot.Statement.assign "label" (.markup (bold name))).tokens .outside := by
  have hbegin : Scans .outside "label=<" [.id (.word "label"), .equals] (.markup 0 []) := by rfl
  have hend : Scans (.markup 0 (bold name).toList) ">"
      [.id (.markup (String.ofList (bold name).toList))] .outside := by rfl
  rw [String.ofList_toList] at hend
  exact (hbegin.append (scans_balanced (balanced_bold name))).append hend

theorem scans_clusterHead (handler : String) :
    Scans .outside ("subgraph " ++ quoted ("cluster_" ++ escaped handler) ++ " \x7b")
      (Dot.Statement.subgraph ("cluster_" ++ escaped handler)).tokens .outside := by
  have hbegin : Scans .outside "subgraph " [.id (.word "subgraph")] .outside := by rfl
  have hend : Scans .outside " \x7b" [.openBrace] .outside := by rfl
  exact (hbegin.append (scans_name (by decide) handler)).append hend

theorem lexed_fill {c : Cluster} {fill : Option String} :
    (Statement.cluster c fill).Plain →
    Lexed (match fill with
        | some color => ["style=\"filled\"", "fillcolor=" ++ quoted color]
        | none => [])
      ((fillWritten fill).flatMap Dot.Statement.tokens) := by
  intro h
  cases fill with
  | none => exact .nil
  | some color =>
    have hstyle : Scans .outside "style=\"filled\""
        (Dot.Statement.assign "style" (.quoted "filled")).tokens .outside := by rfl
    have hbegin : Scans .outside "fillcolor=" [.id (.word "fillcolor"), .equals] .outside := by rfl
    exact .cons hstyle (lexed_line (hbegin.append (scans_quoted (Unmarked.quotable h))))

theorem lexed_cluster {c : Cluster} {fill : Option String}
    (h : (Statement.cluster c fill).Plain) :
    Lexed (c.lines fill) ((Statement.cluster c fill).written.flatMap Dot.Statement.tokens) := by
  have hboxes := lexed_map c.boxes fun b _ => scans_box b
  have hinner := ((lexed_line (scans_label c.handler)).append (lexed_fill h)).append hboxes
  have hend : Scans .outside "\x7d" [.closeBrace] .outside := by rfl
  have hall := ((lexed_line (scans_clusterHead c.handler)).append (lexed_indent hinner)).append
    (lexed_line hend)
  have hwritten : (Statement.cluster c fill).written.flatMap Dot.Statement.tokens =
      (Dot.Statement.subgraph ("cluster_" ++ escaped c.handler)).tokens ++
        ((Dot.Statement.assign "label" (.markup (bold c.handler))).tokens ++
          (fillWritten fill).flatMap Dot.Statement.tokens ++
          c.boxes.flatMap fun b => b.written.tokens) ++ [.closeBrace] := by
    simp [Statement.written, List.flatMap_map, Dot.Statement.tokens]
  rw [hwritten]
  exact hall

theorem lexed_entity (name : String) :
    Lexed (Statement.entity name).lines
      ((Statement.entity name).written.flatMap Dot.Statement.tokens) := by
  have hattributes : Scans .outside " [shape=ellipse,label=<"
      [.openBracket, .id (.word "shape"), .equals, .id (.word "ellipse"), .comma,
        .id (.word "label"), .equals] (.markup 0 []) := by rfl
  exact lexed_line ((((scans_entityNode name).append hattributes).append
    (scans_balanced (balanced_bold name))).append (scans_lastMarkup (bold name)))

/-- An edge is read from its ends and its attributes. -/
theorem scans_edgeLine {source target attributes : String} {s t : Token} {ts : List Token}
    (hsource : Scans .outside source [s] .outside) (htarget : Scans .outside target [t] .outside)
    (hattributes : Scans .outside (attributes ++ "];") ts .outside) :
    Scans .outside (edgeLine source target attributes) (s :: .arrow :: t :: .openBracket :: ts)
      .outside := by
  have harrow : Scans .outside " -> " [.arrow] .outside := by rfl
  have hopen : Scans .outside " [" [.openBracket] .outside := by rfl
  have hline := (((hsource.append harrow).append htarget).append hopen).append hattributes
  rw [edgeLine, String.append_assoc]
  exact hline

theorem lexed_owns (r : Relationship) :
    Lexed (Statement.owns r).lines
      ((Statement.owns r).written.flatMap Dot.Statement.tokens) := by
  have hattributes : Scans .outside "label=\"owns\",style=dashed];"
      [.id (.word "label"), .equals, .id (.quoted "owns"), .comma, .id (.word "style"), .equals,
        .id (.word "dashed"), .closeBracket, .semicolon] .outside := by rfl
  exact lexed_line (scans_edgeLine (scans_entityNode r.owner) (scans_entityNode r.component)
    hattributes)

theorem scans_attributes {a : Arrow} {color : String} (h : (Statement.arrow a color).Plain) :
    Scans .outside (a.attributes color ++ "];")
      (attributeTokens (a.writtenAttributes color) ++ [.semicolon]) .outside := by
  have hbegin : Scans .outside "color=" [.id (.word "color"), .equals] .outside := by rfl
  have hmiddle : Scans (.word color.toList) ",fontcolor="
      [.id (.word (String.ofList color.toList)), .comma, .id (.word "fontcolor"), .equals]
      .outside := by rfl
  have hcolors := ((hbegin.append h.1.scans).append hmiddle).append h.1.scans
  rw [String.ofList_toList] at hcolors
  unfold Arrow.attributes Arrow.writtenAttributes
  split
  · next hkind =>
    have hend : Scans (.word color.toList) "];"
        [.id (.word (String.ofList color.toList)), .closeBracket, .semicolon] .outside := by rfl
    rw [String.ofList_toList] at hend
    rw [String.append_empty]
    exact hcolors.append hend
  · next hkind =>
    have hlabel : Scans (.word color.toList) ",label="
        [.id (.word (String.ofList color.toList)), .comma, .id (.word "label"), .equals]
        .outside := by rfl
    have hend : Scans .outside "];" [.closeBracket, .semicolon] .outside := by rfl
    rw [String.ofList_toList] at hlabel
    have hall := (hcolors.append (hlabel.append (scans_quoted h.2.quotable))).append hend
    exact hall

theorem lexed_arrow {a : Arrow} {color : String} (h : (Statement.arrow a color).Plain) :
    Lexed (Statement.arrow a color).lines
      ((Statement.arrow a color).written.flatMap Dot.Statement.tokens) := by
  have hline := scans_edgeLine (scans_activityNode a.source) (scans_activityNode a.target)
    (scans_attributes h)
  simpa [Statement.written, Statement.lines, Dot.Statement.tokens] using lexed_line hline

/-- The lines of a statement are read as what it is written as. -/
theorem lexed_lines {s : Statement} (h : s.Plain) :
    Lexed s.lines (s.written.flatMap Dot.Statement.tokens) := by
  cases s with
  | cluster c fill => exact lexed_cluster h
  | entity name => exact lexed_entity name
  | owns r => exact lexed_owns r
  | arrow a color => exact lexed_arrow h

/-- The lines of some statements are read as what these are written as. -/
theorem lexed_section {statements : List Statement} (h : ∀ s ∈ statements, s.Plain) :
    Lexed ((statements.flatMap Statement.lines).map indent)
      ((statements.flatMap Statement.written).flatMap Dot.Statement.tokens) := by
  rw [List.flatMap_assoc]
  exact lexed_indent (lexed_flatMap statements fun s hs => lexed_lines (h s hs))

theorem lexed_laterSection {statements : List Statement} (h : ∀ s ∈ statements, s.Plain) :
    Lexed (laterSection statements)
      ((statements.flatMap Statement.written).flatMap Dot.Statement.tokens) := by
  cases statements with
  | nil => exact .nil
  | cons s statements =>
    have hempty : Scans .outside "" [] .outside := by rfl
    exact .cons hempty (lexed_section h)

end Lines

/-- The statements of a drawing, in order. -/
def statements (d : Drawing) (scheme : String) : List Statement :=
  d.clusterStatements scheme ++ d.relationshipStatements ++ colored 0 d.arrows

/-- The statements of DOT that a drawing is written as. -/
def written (d : Drawing) (scheme : String) : List Dot.Statement :=
  [.graph "M"] ++ (d.statements scheme).flatMap Statement.written ++ [.close]

theorem lexed_drawing {d : Drawing} {scheme : String} (h : ∀ s ∈ d.statements scheme, s.Plain) :
    Lexed (d.lines scheme) ((d.written scheme).flatMap Dot.Statement.tokens) := by
  have hbegin : Scans .outside "strict digraph M \x7b"
    [.id (.word "strict"), .id (.word "digraph"), .id (.word "M"), .openBrace] .outside := by rfl
  have hend : Scans .outside "\x7d" [.closeBrace] .outside := by rfl
  simp only [statements, List.mem_append] at h
  have hall := (((((lexed_line hbegin).append
    (lexed_section fun s hs => h s (.inl (.inl hs)))).append
    (lexed_laterSection fun s hs => h s (.inl (.inr hs)))).append
    (lexed_laterSection fun s hs => h s (.inr hs))).append (lexed_line hend))
  simpa [lines, written, statements, Dot.Statement.tokens] using hall

theorem attributed_written {s : Statement} {t : Dot.Statement} (h : t ∈ s.written) :
    t.Attributed := by
  cases s with
  | cluster c fill =>
    simp only [Statement.written, List.mem_append, List.mem_cons, List.mem_map, List.not_mem_nil,
      or_false] at h
    rcases h with (((rfl | rfl) | h) | ⟨b, -, rfl⟩) | rfl
    · trivial
    · trivial
    · cases fill with
      | none => cases h
      | some color =>
        simp only [fillWritten, List.mem_cons, List.not_mem_nil, or_false] at h
        rcases h with rfl | rfl <;> trivial
    · exact List.cons_ne_nil _ _
    · trivial
  | entity | owns | arrow =>
    rw [Statement.written, List.mem_singleton] at h
    subst h
    exact List.cons_ne_nil _ _

section Reading

/-- What a statement shows. -/
def Statement.part : Statement → Outline.Part
  | cluster c _ => .cluster c.handler (c.boxes.map (·.id))
  | entity name => .entity name
  | owns r => .relationship r
  | arrow a _ => .arrow a

theorem activity?_entity (name : String) : Outline.activity? ("entity." ++ name) = none := by
  have hstart : "activity.".toList.isPrefixOf ("entity.".toList ++ name.toList) = false := by rfl
  rw [Outline.activity?, nameAfter?, String.toList_append, hstart]
  rfl

theorem takes_boxes (handler : String) (names : List String) (boxes : List Box) :
    Outline.reader.Takes (.cluster handler names) (boxes.map Box.written) []
      (.cluster handler (names ++ boxes.map (·.id))) := by
  induction boxes generalizing names with
  | nil =>
    rw [List.map_nil, List.map_nil, List.append_nil]
    exact Transducer.takes_nil
  | cons b boxes ih =>
    have hstep : Outline.reader.step (.cluster handler names) b.written =
        some ([], .cluster handler (names ++ [b.id])) := by
      simp [Outline.reader, Outline.readStatement, Box.written, Outline.activity?,
        nameAfter?_escaped]
    simpa using Transducer.Takes.cons hstep (ih (names ++ [b.id]))

theorem kind?_writtenAttributes {a : Arrow} (h : Unmarked a.kind) (color : String) :
    Outline.kind? (a.writtenAttributes color) = some a.kind := by
  unfold Arrow.writtenAttributes
  split
  · next hkind =>
    rw [hkind]
    rfl
  · exact h.nameAfter?

/-- From what a statement is written as, that which it shows is read. -/
theorem takes_written {s : Statement} (h : s.Plain) :
    Outline.reader.Takes .graph s.written [s.part] .graph := by
  cases s with
  | cluster c fill =>
    -- the head opens the cluster, each box adds a name to it, and only its end gives it out
    have hhead : Outline.reader.step .graph (.subgraph ("cluster_" ++ escaped c.handler)) =
        some ([], .cluster c.handler []) := by
      simp [Outline.reader, Outline.readStatement, Outline.handler?, nameAfter?_escaped]
    have hfill : Outline.reader.Takes (.cluster c.handler []) (fillWritten fill) []
        (.cluster c.handler []) := by
      cases fill <;> rfl
    have hbegin : Outline.reader.Takes .graph [.subgraph ("cluster_" ++ escaped c.handler),
        .assign "label" (.markup (bold c.handler))] [] (.cluster c.handler []) :=
      .cons hhead rfl
    have hend : Outline.reader.Takes (.cluster c.handler (c.boxes.map (·.id))) [.close]
      [.cluster c.handler (c.boxes.map (·.id))] .graph := rfl
    have hboxes := takes_boxes c.handler [] c.boxes
    rw [List.nil_append] at hboxes
    exact ((hbegin.append hfill).append hboxes).append hend
  | entity name =>
    refine Transducer.takes_item ?_
    simp [Outline.reader, Outline.readStatement, Outline.entity?, nameAfter?_escaped,
      Statement.part]
  | owns r =>
    refine Transducer.takes_item ?_
    simp [Outline.reader, Outline.readStatement, Outline.edge?, activity?_entity, Outline.entity?,
      nameAfter?_escaped, Statement.part]
  | arrow a color =>
    refine Transducer.takes_item ?_
    simp [Outline.reader, Outline.readStatement, Outline.edge?, Outline.activity?,
      nameAfter?_escaped, kind?_writtenAttributes h.2, Statement.part]

/-- The outline of a drawing. -/
def outline (d : Drawing) : Outline where
  clusters := d.clusters.map fun c => (c.handler, c.boxes.map (·.id))
  entities := d.entities
  relationships := d.relationships
  arrows := d.arrows

theorem map_part_colored (turn : Nat) (arrows : List Arrow) :
    (colored turn arrows).map Statement.part = arrows.map .arrow := by
  induction arrows generalizing turn with
  | nil => rfl
  | cons a arrows ih =>
    rw [colored]
    split <;> rw [List.map_cons, ih] <;> rfl

theorem map_part_statements (d : Drawing) (scheme : String) :
    (d.statements scheme).map Statement.part =
      d.clusters.map (fun c => .cluster c.handler (c.boxes.map (·.id))) ++
        (d.entities.map .entity ++ d.relationships.map .relationship) ++ d.arrows.map .arrow := by
  have hclusters : (d.clusterStatements scheme).map Statement.part =
      d.clusters.map fun c => .cluster c.handler (c.boxes.map (·.id)) := by
    rw [clusterStatements, List.map_map]
    conv_rhs => rw [← List.zipIdx_map_fst 0 d.clusters, List.map_map]
    rfl
  rw [statements, List.map_append, List.map_append, hclusters, map_part_colored,
    relationshipStatements, List.map_append, List.map_map, List.map_map]
  rfl

theorem ofParts_statements (d : Drawing) (scheme : String) :
    Outline.ofParts ((d.statements scheme).map Statement.part) = d.outline := by
  rw [map_part_statements]
  simp [Outline.ofParts, outline, Outline.Part.cluster?, Outline.Part.entity?,
    Outline.Part.relationship?, Outline.Part.arrow?, Function.comp_def]

/-- The text of a drawing gives its outline, whatever names are in it. -/
theorem read?_text_of_plain {d : Drawing} {scheme : String}
    (h : ∀ s ∈ d.statements scheme, s.Plain) : Outline.read? (d.text scheme) = some d.outline := by
  have hattributed : ∀ s ∈ d.written scheme, s.Attributed := by
    intro s hs
    simp only [written, List.mem_append, List.mem_singleton, List.mem_flatMap] at hs
    rcases hs with (rfl | ⟨t, -, ht⟩) | rfl
    · trivial
    · exact attributed_written ht
    · trivial
  have hstatements : statements? (d.text scheme) = some (d.written scheme) :=
    statements?_eq (lexed_drawing h).scans hattributed
  have hinner := Transducer.takes_flatMap (d.statements scheme) fun s hs => takes_written (h s hs)
  have hparts : Outline.reader.Takes .before (d.written scheme)
      ((d.statements scheme).map Statement.part) .after := by
    have hbegin : Outline.reader.Takes .before [.graph "M"] [] .graph := rfl
    have hend : Outline.reader.Takes .graph [.close] [] .after := rfl
    rw [List.map_eq_flatMap, ← List.append_nil (List.flatMap _ _)]
    exact (hbegin.append hinner).append hend
  rw [Outline.read?, hstatements, Option.bind_some,
    show Outline.reader.run .before (d.written scheme) = _ from hparts]
  exact congrArg some (ofParts_statements d scheme)

end Reading

theorem unmarked_fillColor {scheme color : String} (h : Unmarked scheme) {index : Nat}
    (hcolor : fillColor scheme index = some color) : Unmarked color := by
  unfold fillColor at hcolor
  split at hcolor
  · cases hcolor
  · have hslash : Unmarked "/" := by decide
    have hdigit : ∀ i < 3, Unmarked (Text.decimal (i + 1)) := by decide +kernel
    cases hcolor
    exact ((hslash.append h).append hslash).append (hdigit _ (Nat.mod_lt _ (by decide)))

theorem isWord_kindColor {kind color : String} (h : kindColor? kind = some color) :
    IsWord color := by
  obtain ⟨k, -, rfl⟩ := Option.map_eq_some_iff.1 h
  cases k <;> exact ⟨by decide, by decide⟩

theorem isWord_otherColor (turn : Nat) : IsWord (otherColor turn) := by
  unfold otherColor
  split <;> exact ⟨by decide, by decide⟩

theorem plain_colored {arrows : List Arrow} (h : ∀ a ∈ arrows, Unmarked a.kind) (turn : Nat) :
    ∀ s ∈ colored turn arrows, s.Plain := by
  induction arrows generalizing turn with
  | nil => simp [colored]
  | cons a arrows ih =>
    have ha := h a (by simp)
    have ih := ih fun b hb => h b (by simp [hb])
    rw [colored]
    split
    · next color hcolor =>
      rw [List.forall_mem_cons]
      exact ⟨⟨isWord_kindColor hcolor, ha⟩, ih turn⟩
    · rw [List.forall_mem_cons]
      exact ⟨⟨isWord_otherColor turn, ha⟩, ih (turn + 1)⟩

/-- A drawing can be read if its scheme and the kinds of its arrows need no escape. -/
theorem plain_statements {d : Drawing} {scheme : String} (hscheme : Unmarked scheme)
    (hkinds : ∀ a ∈ d.arrows, Unmarked a.kind) : ∀ s ∈ d.statements scheme, s.Plain := by
  intro s hs
  simp only [statements, List.mem_append] at hs
  rcases hs with (hs | hs) | hs
  · simp only [clusterStatements, List.mem_map, Prod.exists] at hs
    obtain ⟨c, index, -, rfl⟩ := hs
    cases hcolor : fillColor scheme index with
    | none => trivial
    | some color => exact unmarked_fillColor hscheme hcolor
  · simp only [relationshipStatements, List.mem_append, List.mem_map] at hs
    rcases hs with ⟨name, -, rfl⟩ | ⟨r, -, rfl⟩ <;> trivial
  · exact plain_colored hkinds 0 s hs

theorem unmarked_kind {m : Model} {shown : Shown} :
    ∀ a ∈ (m.drawing shown).arrows, Unmarked a.kind := by
  intro a ha
  obtain ⟨c, -, rfl⟩ := mem_arrows_drawing ha
  change Unmarked c.kind.name
  cases c.kind <;> decide

theorem outline_drawing (m : Model) :
    (m.drawing .all).outline =
      { clusters := (keepFirst (m.activities.map (·.handlerType))).map fun h =>
          (h, (m.activities.filter (·.handlerType = h)).map (·.id))
        entities := keepFirst (m.relationships.flatMap fun r => [r.owner, r.component])
        relationships := m.relationships
        arrows := m.connections.map fun c => ⟨c.kind.name, c.source, c.target⟩ } := by
  unfold outline
  rw [Model.drawing_clusters, List.map_map]
  simp only [Function.comp_def, List.map_map]
  rfl

theorem activityNode_injective : Function.Injective activityNode :=
  quoted_escaped_injective "activity."

theorem entityNode_injective : Function.Injective entityNode := quoted_escaped_injective "entity."

theorem activityNode_ne_entityNode (x y : String) : activityNode x ≠ entityNode y := by
  intro h
  have hnone := congrArg Outline.activity? (quoted_injective h)
  rw [activity?_entity, Outline.activity?, nameAfter?_escaped] at hnone
  cases hnone

end Drawing

namespace Outline

/-- The text that a model is drawn as gives back the entities with the activities that each handles,
the relationships and the connections, whatever their names are, and nothing else.  The names of two
nodes are the same only if the nodes are of one sort and of one name. -/
theorem drawing_text_recovers_model (s : Scenario) {scheme : String}
    (hscheme : ∀ c ∈ scheme.toList, c ≠ '"' ∧ c ≠ '\\') :
    (∃ d, Drawing.read s.toValue .all = .ok d ∧
      read? (d.text scheme) = some
        { clusters := (keepFirst (s.model.activities.map (·.handlerType))).map fun h =>
            (h, (s.model.activities.filter (·.handlerType = h)).map (·.id))
          entities := keepFirst (s.model.relationships.flatMap fun r => [r.owner, r.component])
          relationships := s.model.relationships
          arrows := s.model.connections.map fun c => ⟨c.kind.name, c.source, c.target⟩ }) ∧
    ∀ x y, (Drawing.activityNode x = Drawing.activityNode y → x = y) ∧
      (Drawing.entityNode x = Drawing.entityNode y → x = y) ∧
      Drawing.activityNode x ≠ Drawing.entityNode y := by
  refine ⟨⟨s.model.drawing .all, Drawing.read_toValue s .all, ?_⟩, fun x y =>
    ⟨fun h => Drawing.activityNode_injective h, fun h => Drawing.entityNode_injective h,
      Drawing.activityNode_ne_entityNode x y⟩⟩
  rw [Drawing.read?_text_of_plain (Drawing.plain_statements hscheme Drawing.unmarked_kind),
    Drawing.outline_drawing]

/-- A model with names that would end their quotes, their markup or their cluster. -/
def markedNames : Scenario where
  name := .null
  description := .text ""
  model :=
    { relationships := [⟨"say \"hi\"", "A & B"⟩, ⟨"A & B", "say \"hi\""⟩]
      resources := [⟨"A & B", "A & B", 0⟩]
      activities := [
        ⟨"a\\", "say \"hi\"", true, [], [⟨["A & B"], 1⟩]⟩,
        ⟨"x\n\x7d", "A & B", false, [⟨"paid", .flag true⟩], []⟩,
        ⟨"<b>\"];", "say \"hi\"", false, [], []⟩]
      connections := [⟨.flow, "a\\", "<b>\"];"⟩, ⟨.startToInflow, "x\n\x7d", "a\\"⟩] }

theorem drawing_text_recovers_marked_names :
    (∀ c ∈ "blues8".toList, c ≠ '"' ∧ c ≠ '\\') ∧
      ∃ d, Drawing.read markedNames.toValue .all = .ok d ∧
        read? (d.text "blues8") = some
          { clusters := [("say \"hi\"", ["a\\", "<b>\"];"]), ("A & B", ["x\n\x7d"])]
            entities := ["say \"hi\"", "A & B"]
            relationships := [⟨"say \"hi\"", "A & B"⟩, ⟨"A & B", "say \"hi\""⟩]
            arrows := [⟨"Flow", "a\\", "<b>\"];"⟩, ⟨"StartToInflow", "x\n\x7d", "a\\"⟩] } := by
  have hscheme : Unmarked "blues8" := by decide
  obtain ⟨⟨d, hread, htext⟩, -⟩ := drawing_text_recovers_model markedNames hscheme
  exact ⟨hscheme, d, hread, htext.trans (by decide +kernel)⟩

end Outline

end FlowDiagram
