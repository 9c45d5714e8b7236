import FlowDiagram.Proofs.Outline

/-! # Labels are read back

A label is a row of tags, each with some text up to the next one.  Names stand in that text with three
characters written as entities, so every angle bracket of a label is of a tag, every ampersand begins an
entity, and an entity that was in a name already is not taken for one.  What a box shows therefore comes
back from its label, as long as no requirement accepts more than one resource: the names of several are
joined, and a name may hold what joins them.
-/

namespace FlowDiagram

namespace Dot

section Brackets

theorem Balanced.count_eq {s : List Char} (h : Balanced s) : s.count '<' = s.count '>' := by
  induction h with
  | nil => rfl
  | char hopen hclose _ ih => simpa [List.count_cons, hopen, hclose] using ih
  | tag _ _ ihs ihr =>
    simp [List.count_append]
    omega

/-- Up to no point of a balanced text more brackets are closed than are opened. -/
theorem Balanced.count_take_le {s : List Char} (h : Balanced s) (n : Nat) :
    (s.take n).count '>' ≤ (s.take n).count '<' := by
  induction h generalizing n with
  | nil => simp
  | char hopen hclose _ ih =>
    cases n with
    | zero => simp
    | succ n => simpa [List.count_cons, hopen, hclose] using ih n
  | @tag s r hs _ ihs ihr =>
    cases n with
    | zero => simp
    | succ n =>
      rw [List.cons_append, List.take_succ_cons, List.take_append]
      by_cases hn : n ≤ s.length
      · -- the tag is still open
        have hrest : n - s.length = 0 := by omega
        have h := ihs n
        simp [hrest]
        omega
      · obtain ⟨m, hm⟩ : ∃ m, n - s.length = m + 1 := ⟨n - s.length - 1, by omega⟩
        have hall : s.take n = s := List.take_of_length_le (by omega)
        have hcount := hs.count_eq
        have h := ihr m
        simp [hm, hall, List.count_append]
        omega

end Brackets

section Entities

/-- The entities that stand for characters of names. -/
def markupEntities : List String := ["&amp;", "&lt;", "&gt;"]

/-- Wherever an ampersand stands in the text, one of the entities begins. -/
def BeginsEntities (s : List Char) : Prop :=
  ∀ front rest, s = front ++ '&' :: rest → ∃ e ∈ markupEntities, e.toList <+: '&' :: rest

theorem BeginsEntities.append {s t : List Char} (hs : BeginsEntities s) (ht : BeginsEntities t) :
    BeginsEntities (s ++ t) := by
  intro front rest h
  rcases List.append_eq_append_iff.1 h with ⟨more, rfl, ht'⟩ | ⟨more, hs', hrest⟩
  · exact ht more rest ht'
  · cases more with
    | nil => exact ht [] rest hrest.symm
    | cons c more =>
      obtain ⟨rfl, rfl⟩ := List.cons.inj hrest
      obtain ⟨e, he, hprefix⟩ := hs front more hs'
      exact ⟨e, he, hprefix.trans (List.prefix_append ('&' :: more) t)⟩

theorem beginsEntities_of_notMem {s : List Char} (h : '&' ∉ s) : BeginsEntities s := by
  intro front rest hs
  apply absurd _ h
  simp [hs]

/-- An entity has no ampersand but the one that it begins with. -/
theorem beginsEntities_entity {e : String} (he : e ∈ markupEntities) : BeginsEntities e.toList := by
  have htail : ∀ e ∈ markupEntities, '&' ∉ e.toList.tail := by decide +kernel
  intro front rest h
  cases front with
  | nil => exact ⟨e, he, h ▸ List.prefix_refl _⟩
  | cons c front =>
    apply absurd _ (htail e he)
    simp [h]

theorem beginsEntities_markup (s : String) : BeginsEntities (markup s).toList := by
  rw [markup, String.toList_ofList]
  induction s.toList with
  | nil => exact beginsEntities_of_notMem (by simp)
  | cons c s ih =>
    rw [List.flatMap_cons]
    apply BeginsEntities.append _ ih
    unfold markupChar
    split_ifs with hamp
    · exact beginsEntities_entity (e := "&amp;") (by decide)
    · exact beginsEntities_entity (e := "&lt;") (by decide)
    · exact beginsEntities_entity (e := "&gt;") (by decide)
    · exact beginsEntities_of_notMem (by simpa using Ne.symm hamp)

/-- The characters that a text in markup stands for, an entity for the one that it names. -/
def namedChars : List Char → List Char
  | '&' :: 'a' :: 'm' :: 'p' :: ';' :: s => '&' :: namedChars s
  | '&' :: 'l' :: 't' :: ';' :: s => '<' :: namedChars s
  | '&' :: 'g' :: 't' :: ';' :: s => '>' :: namedChars s
  | c :: s => c :: namedChars s
  | [] => []

/-- The name that a text in markup stands for. -/
def unmarkup (s : String) : String := String.ofList (namedChars s.toList)

theorem namedChars_cons {c : Char} (h : c ≠ '&') (s : List Char) :
    namedChars (c :: s) = c :: namedChars s := by
  rw [namedChars]
  all_goals
    rintro _ hc -
    exact h hc

theorem namedChars_markup (s : List Char) : namedChars (s.flatMap markupChar) = s := by
  induction s with
  | nil => rfl
  | cons c s ih =>
    rw [List.flatMap_cons, markupChar]
    split_ifs with hamp hopen hclose
    · simp [namedChars, ih, hamp]
    · simp [namedChars, ih, hopen]
    · simp [namedChars, ih, hclose]
    · rw [List.singleton_append, namedChars_cons hamp, ih]

theorem unmarkup_markup (s : String) : unmarkup (markup s) = s := by
  rw [unmarkup, markup, String.toList_ofList, namedChars_markup, String.ofList_toList]

end Entities

section Pieces

/-- A tag, and the text from there to the next tag. -/
structure Piece where
  tag : String
  text : String
deriving DecidableEq, Repr

namespace Piece

def written (p : Piece) : String := "<" ++ p.tag ++ ">" ++ p.text

/-- What is written after the opening bracket. -/
def inner (p : Piece) : List Char := p.tag.toList ++ '>' :: p.text.toList

/-- The piece has no angle brackets but those of its tag. -/
def Plain (p : Piece) : Prop := Unbracketed p.tag ∧ Unbracketed p.text

/-- The tag and the text before and after a closing bracket, if there is one such bracket. -/
def ofInner? (s : List Char) : Option Piece :=
  match s.splitOn '>' with
  | [tag, text] => some ⟨String.ofList tag, String.ofList text⟩
  | _ => none

theorem ofInner?_inner {p : Piece} (h : p.Plain) : ofInner? p.inner = some p := by
  have htag : '>' ∉ p.tag.toList := fun hc => (h.1 _ hc).2 rfl
  have htext : '>' ∉ p.text.toList := fun hc => (h.2 _ hc).2 rfl
  rw [ofInner?, inner, List.splitOn_append_cons_self_of_not_mem htag, List.splitOn_eq_singleton htext]
  simp

theorem Plain.notMem_inner {p : Piece} (h : p.Plain) : '<' ∉ p.inner := by
  intro hc
  simp only [inner, List.mem_append, List.mem_cons] at hc
  rcases hc with hc | hc | hc
  · exact (h.1 _ hc).1 rfl
  · cases hc
  · exact (h.2 _ hc).1 rfl

end Piece

/-- The pieces of a text that begins with a tag; none if an angle bracket of the text is of no tag. -/
def pieces? (text : String) : Option (List Piece) :=
  match text.toList.splitOn '<' with
  | [] :: inners => inners.mapM Piece.ofInner?
  | _ => none

/-- A text without opening brackets is cut off from the pieces after it, and these from each other. -/
theorem splitOn_append_written {pieces : List Piece} (h : ∀ p ∈ pieces, p.Plain) {s : List Char}
    (hs : '<' ∉ s) :
    (s ++ (String.join (pieces.map Piece.written)).toList).splitOn '<' =
      s :: pieces.map Piece.inner := by
  induction pieces generalizing s with
  | nil => simpa using List.splitOn_eq_singleton hs
  | cons p pieces ih =>
    have hwritten : (String.join ((p :: pieces).map Piece.written)).toList =
        '<' :: (p.inner ++ (String.join (pieces.map Piece.written)).toList) := by
      simp [Piece.written, Piece.inner, String.join_cons]
    rw [hwritten, List.splitOn_append_cons_self_of_not_mem hs, List.map_cons]
    have hp := h p List.mem_cons_self
    rw [ih (fun q hq => h q (List.mem_cons_of_mem p hq)) hp.notMem_inner]

theorem pieces?_written {pieces : List Piece} (h : ∀ p ∈ pieces, p.Plain) :
    pieces? (String.join (pieces.map Piece.written)) = some pieces := by
  have hsplit := splitOn_append_written h (s := []) (by simp)
  have hread : pieces.mapM (Piece.ofInner? ∘ Piece.inner) = some (pieces.map id) :=
    mapM_eq_pure fun p hp => Piece.ofInner?_inner (h p hp)
  rw [List.nil_append] at hsplit
  rw [pieces?, hsplit]
  change (pieces.map Piece.inner).mapM Piece.ofInner? = some pieces
  rw [List.mapM_map, hread, List.map_id]

theorem beginsEntities_written {pieces : List Piece}
    (h : ∀ p ∈ pieces, '&' ∉ p.tag.toList ∧ BeginsEntities p.text.toList) :
    BeginsEntities (String.join (pieces.map Piece.written)).toList := by
  induction pieces with
  | nil => exact beginsEntities_of_notMem (by decide)
  | cons p pieces ih =>
    obtain ⟨htag, htext⟩ := h p List.mem_cons_self
    have ih := ih fun q hq => h q (List.mem_cons_of_mem p hq)
    have hbrackets : BeginsEntities ("<" ++ p.tag ++ ">").toList :=
      beginsEntities_of_notMem (by simpa using htag)
    rw [List.map_cons, String.join_cons, Piece.written, String.toList_append, String.toList_append]
    exact (hbrackets.append htext).append ih

end Pieces

end Dot

namespace Drawing

open Dot

/-- The tag before the names of what a requirement accepts. -/
def requirementTag : String := "br align=\"left\"/"

def labelTags : List String := ["b", "/b", "br/", "i", "/i", requirementTag]

def requirementPiece (groups : List String) : Piece :=
  ⟨requirementTag, markup (", ".intercalate groups)⟩

/-- The pieces of the label of a box. -/
def Box.pieces (b : Box) : List Piece :=
  [⟨"b", markup b.id⟩, ⟨"/b", ""⟩] ++
    (if b.initial then [⟨"br/", ""⟩, ⟨"i", "initial"⟩, ⟨"/i", ""⟩] else []) ++
    b.requirements.map requirementPiece

/-- The one resource that a piece of a label requires. -/
def requirement? (p : Piece) : Option (List String) :=
  if p.tag = requirementTag then some [unmarkup p.text] else none

/-- The box whose label has the pieces, if each requirement accepts one resource. -/
def Box.ofPieces? : List Piece → Option Box
  | ⟨"b", id⟩ :: ⟨"/b", ""⟩ :: ⟨"br/", ""⟩ :: ⟨"i", "initial"⟩ :: ⟨"/i", ""⟩ :: rest =>
    (rest.mapM requirement?).map fun requirements => ⟨unmarkup id, true, requirements⟩
  | ⟨"b", id⟩ :: ⟨"/b", ""⟩ :: rest =>
    (rest.mapM requirement?).map fun requirements => ⟨unmarkup id, false, requirements⟩
  | _ => none

/-- The box that a label is of, from the tags and the entities in the label alone. -/
def Box.ofLabel? (label : String) : Option Box := (pieces? label).bind Box.ofPieces?

section Label

theorem intercalate_empty (parts : List String) : "".intercalate parts = String.join parts := by
  induction parts with
  | nil => rfl
  | cons s parts ih =>
    cases parts with
    | nil => simp [String.join_cons]
    | cons t parts =>
      rw [String.intercalate_cons_cons, ih, String.append_empty, String.join_cons (s := s)]

theorem Box.label_eq_written (b : Box) :
    b.label = String.join (b.pieces.map Piece.written) := by
  have hbold : bold b.id = String.join ([⟨"b", markup b.id⟩, ⟨"/b", ""⟩].map Piece.written) := by
    simp [bold, Piece.written, String.join_cons]
  have hinitial : (if b.initial then "<br/><i>initial</i>" else "") =
      String.join ((if b.initial then [⟨"br/", ""⟩, ⟨"i", "initial"⟩, ⟨"/i", ""⟩] else []).map
        Piece.written) := by
    cases b.initial <;> rfl
  have hrequirements : (b.requirements.map requirementPiece).map Piece.written =
      b.requirements.map fun groups =>
        "<br align=\"left\"/>" ++ markup (", ".intercalate groups) := by
    rw [List.map_map]
    rfl
  rw [label, hbold, hinitial, intercalate_empty, ← hrequirements, pieces, List.map_append,
    List.map_append, String.join_append, String.join_append]

/-- The texts of a label are written as markup. -/
theorem Box.of_mem_pieces {b : Box} {p : Piece} (hp : p ∈ b.pieces) :
    p.tag ∈ labelTags ∧ ∃ name, p.text = markup name := by
  simp only [pieces, List.mem_append, List.mem_map, List.mem_cons, List.not_mem_nil, or_false] at hp
  rcases hp with ((rfl | rfl) | hp) | ⟨groups, -, rfl⟩
  · exact ⟨List.mem_cons_self, b.id, rfl⟩
  · exact ⟨by decide, "", rfl⟩
  · split at hp
    · simp only [List.mem_cons, List.not_mem_nil, or_false] at hp
      rcases hp with rfl | rfl | rfl
      · exact ⟨by decide, "", rfl⟩
      · exact ⟨by decide, "initial", rfl⟩
      · exact ⟨by decide, "", rfl⟩
    · cases hp
  · exact ⟨by simp [labelTags, requirementPiece], ", ".intercalate groups, rfl⟩

theorem Box.plain_pieces (b : Box) : ∀ p ∈ b.pieces, p.Plain := by
  have htags : ∀ tag ∈ labelTags, Unbracketed tag := by decide
  intro p hp
  obtain ⟨htag, name, htext⟩ := of_mem_pieces hp
  exact ⟨htags p.tag htag, htext ▸ unbracketed_markup name⟩

theorem Box.beginsEntities_label (b : Box) : BeginsEntities b.label.toList := by
  have htags : ∀ tag ∈ labelTags, '&' ∉ tag.toList := by decide
  rw [label_eq_written]
  apply beginsEntities_written
  intro p hp
  obtain ⟨htag, name, htext⟩ := of_mem_pieces hp
  exact ⟨htags p.tag htag, htext ▸ beginsEntities_markup name⟩

theorem Box.map_tag_pieces (b : Box) :
    b.pieces.map (·.tag) = ["b", "/b"] ++ (if b.initial then ["br/", "i", "/i"] else []) ++
      List.replicate b.requirements.length "br align=\"left\"/" := by
  have hinitial : (if b.initial then [(⟨"br/", ""⟩ : Piece), ⟨"i", "initial"⟩, ⟨"/i", ""⟩]
      else []).map (·.tag) = if b.initial then ["br/", "i", "/i"] else [] := by
    cases b.initial <;> rfl
  have hrequirements : (b.requirements.map requirementPiece).map (·.tag) =
      List.replicate b.requirements.length "br align=\"left\"/" := by
    rw [List.map_map, ← List.map_const']
    rfl
  rw [pieces, List.map_append, List.map_append, hinitial, hrequirements]
  rfl

theorem mapM_requirement? (requirements : List (List String)) :
    (requirements.map requirementPiece).mapM requirement? =
      some (requirements.map fun groups => [", ".intercalate groups]) := by
  rw [List.mapM_map]
  apply mapM_eq_pure
  intro groups _
  change requirement? (requirementPiece groups) = some [", ".intercalate groups]
  rw [requirement?, requirementPiece, if_pos rfl, unmarkup_markup]

/-- What a label shows comes back from it, with the names that a requirement accepts as one name. -/
theorem Box.ofLabel?_label (b : Box) :
    Box.ofLabel? b.label =
      some ⟨b.id, b.initial, b.requirements.map fun groups => [", ".intercalate groups]⟩ := by
  have hread : Box.ofPieces? b.pieces =
      ((b.requirements.map requirementPiece).mapM requirement?).map fun requirements =>
        ⟨unmarkup (markup b.id), b.initial, requirements⟩ := by
    obtain ⟨id, initial, requirements⟩ := b
    cases initial with
    | true => rfl
    | false =>
      -- the tag of a requirement is not that of the break before the mark of an initial activity
      cases requirements <;> rfl
  rw [ofLabel?, label_eq_written, pieces?_written b.plain_pieces, Option.bind_some, hread,
    mapM_requirement?, Option.map_some, unmarkup_markup]

end Label

/-- Whatever the names in a box are, the angle brackets of its label are those of the tags that are listed:
they balance, and none closes before it opens.  Every ampersand begins an entity.  If each requirement
accepts one resource, then the tags and the entities alone give back the box. -/
theorem label_gives_box (b : Box) (hone : ∀ groups ∈ b.requirements, groups.length = 1) :
    (∀ front, front <+: b.label.toList → front.count '>' ≤ front.count '<') ∧
    b.label.toList.count '<' = b.label.toList.count '>' ∧
    (∃ pieces : List Piece,
      b.label = String.join (pieces.map fun p => "<" ++ p.tag ++ ">" ++ p.text) ∧
      (∀ p ∈ pieces, ∀ c ∈ p.text.toList, c ≠ '<' ∧ c ≠ '>') ∧
      pieces.map (·.tag) = ["b", "/b"] ++ (if b.initial then ["br/", "i", "/i"] else []) ++
        List.replicate b.requirements.length "br align=\"left\"/") ∧
    (∀ front rest, b.label.toList = front ++ '&' :: rest →
      ∃ e ∈ ["&amp;", "&lt;", "&gt;"], e.toList <+: '&' :: rest) ∧
    Box.ofLabel? b.label = some b := by
  have hbalanced := balanced_label b
  refine ⟨?_, hbalanced.count_eq, ⟨b.pieces, b.label_eq_written, ?_, b.map_tag_pieces⟩,
    b.beginsEntities_label, ?_⟩
  · intro front hfront
    rw [List.prefix_iff_eq_take.1 hfront]
    exact hbalanced.count_take_le front.length
  · intro p hp
    exact (b.plain_pieces p hp).2
  · have hnames : (b.requirements.map fun groups => [", ".intercalate groups]) = b.requirements := by
      conv_rhs => rw [← List.map_id b.requirements]
      apply List.map_congr_left
      intro groups hgroups
      obtain ⟨name, rfl⟩ := List.length_eq_one_iff.1 (hone groups hgroups)
      simp
    rw [Box.ofLabel?_label, hnames]

/-- A box with names that hold tags, entities and what joins names. -/
def markedBox : Box := ⟨"<b>&lt;</b>", true, [["&amp;"], ["x, y"], [""]]⟩

theorem marked_label_gives_box :
    (∀ groups ∈ markedBox.requirements, groups.length = 1) ∧
      Box.ofLabel? ("<b>&lt;b&gt;&amp;lt;&lt;/b&gt;</b><br/><i>initial</i>" ++
        "<br align=\"left\"/>&amp;amp;<br align=\"left\"/>x, y<br align=\"left\"/>") =
          some markedBox := by
  have hone : ∀ groups ∈ markedBox.requirements, groups.length = 1 := by decide
  have hlabel : markedBox.label = "<b>&lt;b&gt;&amp;lt;&lt;/b&gt;</b><br/><i>initial</i>" ++
      "<br align=\"left\"/>&amp;amp;<br align=\"left\"/>x, y<br align=\"left\"/>" := by
    decide +kernel
  have hbox := (label_gives_box markedBox hone).2.2.2.2
  rw [hlabel] at hbox
  exact ⟨hone, hbox⟩

end Drawing

end FlowDiagram
