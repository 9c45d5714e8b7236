import FlowDiagram.Connection.Basic
import Mathlib.Data.List.Basic
import Mathlib.Data.Option.Basic

/-! # Handles and node ids

The name of a handle holds one of eight forms between the id of its node and its index: one of four
corners or one of four sides.  A side is the end of two corners, so the forms are looked for in
turn, the corners first, each where it occurs last.  As no index holds a hyphen, a form occurs last
where the index follows it, or no index follows it at all, and so nothing within an id hides the
form after it.  An id can only add to it: the left or the right side of an id that ends with a
hyphen and `top` or `bottom` has the name of a corner, and is taken for one.
-/

namespace FlowDiagram

namespace Text

variable {c : Char} {piece s before rest named index front word : List Char}

/-- What follows the last occurrence of a piece in a text. -/
def afterLast? (piece : List Char) : List Char → Option (List Char)
  | [] => if piece = [] then some [] else none
  | c :: s =>
    (afterLast? piece s).or
      (if piece.isPrefixOf (c :: s) then some ((c :: s).drop piece.length) else none)

theorem eq_append_of_afterLast? (h : afterLast? piece s = some rest) :
    ∃ before, s = before ++ (piece ++ rest) := by
  induction s with
  | nil =>
    rw [afterLast?] at h
    split at h
    · next hp =>
      cases h
      exact ⟨[], by simp [hp]⟩
    · cases h
  | cons c s ih =>
    rw [afterLast?, Option.or_eq_some_iff] at h
    rcases h with h | ⟨-, h⟩
    · obtain ⟨before, rfl⟩ := ih h
      exact ⟨c :: before, rfl⟩
    · split at h
      · next hprefix =>
        obtain ⟨rest', hrest⟩ := List.isPrefixOf_iff_prefix.1 hprefix
        rw [← hrest, List.drop_left] at h
        cases h
        exact ⟨[], by rw [List.nil_append, hrest]⟩
      · cases h

/-- No occurrence of a piece is later than the last one. -/
theorem exists_afterLast? (h : s = before ++ (piece ++ rest)) :
    ∃ rest', afterLast? piece s = some rest' ∧ rest'.length ≤ rest.length := by
  induction s generalizing before with
  | nil =>
    simp only [List.nil_eq, List.append_eq_nil_iff] at h
    exact ⟨[], by simp [afterLast?, h.2.1], by simp⟩
  | cons c s ih =>
    rw [afterLast?]
    cases before with
    | nil =>
      cases hlater : afterLast? piece s with
      | some rest' =>
        obtain ⟨before, hs⟩ := eq_append_of_afterLast? hlater
        have hlength := congrArg List.length h
        simp only [hs, List.length_cons, List.length_append, List.length_nil] at hlength
        exact ⟨rest', rfl, by omega⟩
      | none =>
        rw [List.nil_append] at h
        refine ⟨rest, ?_, Nat.le_refl _⟩
        simp [h]
    | cons b before =>
      obtain ⟨rest', hfound, hle⟩ := ih (List.cons.inj h).2
      exact ⟨rest', by rw [hfound]; rfl, hle⟩

/-- A piece that ends with a character occurs last where that character does. -/
theorem afterLast?_eq_some_iff (hrest : c ∉ rest) :
    afterLast? (piece ++ [c]) s = some rest ↔ ∃ before, s = before ++ piece ++ c :: rest := by
  constructor
  · intro h
    obtain ⟨before, rfl⟩ := eq_append_of_afterLast? h
    exact ⟨before, by simp⟩
  · rintro ⟨before, rfl⟩
    have htext : before ++ piece ++ c :: rest = before ++ (piece ++ [c] ++ rest) := by simp
    obtain ⟨rest', hfound, hle⟩ := exists_afterLast? htext
    obtain ⟨before', hs⟩ := eq_append_of_afterLast? hfound
    have hsuffix : c :: rest' <:+ before ++ piece ++ c :: rest := by
      rw [hs]
      exact ⟨before' ++ piece, by simp⟩
    have hlength : (c :: rest').length ≤ (c :: rest).length := by simpa using hle
    have hwithin : c :: rest' <:+ c :: rest :=
      List.suffix_of_suffix_length_le hsuffix (List.suffix_append _ _) hlength
    rcases List.suffix_cons_iff.1 hwithin with heq | hlater
    · rw [hfound, (List.cons.inj heq).2]
    · exact absurd (hlater.subset List.mem_cons_self) hrest

theorem hyphen_notMem_of_isIndex (h : isIndex index = true) : '-' ∉ index := by
  intro hmem
  simp only [isIndex, Bool.and_eq_true, List.all_eq_true] at h
  simpa [isDigit_hyphen] using h.2 '-' hmem

theorem splitLast_append (before : List Char) (hrest : c ∉ rest) :
    splitLast c (before ++ c :: rest) = some (before, rest) :=
  splitLast_eq_some_iff.2 ⟨rfl, hrest⟩

/-- A text divides in one way at its last hyphen. -/
theorem eq_of_append_hyphen (hindex : '-' ∉ index) (hrest : '-' ∉ rest)
    (h : named ++ '-' :: index = before ++ '-' :: rest) : named = before ∧ index = rest := by
  have hparts := splitLast_append named hindex
  rw [h, splitLast_append before hrest] at hparts
  cases hparts
  exact ⟨rfl, rfl⟩

theorem any_afterLast?_iff {form : List Char} (hindex : '-' ∉ index) :
    (afterLast? (form ++ ['-']) (named ++ '-' :: index)).any isIndex = true ↔
      isIndex index = true ∧ form <:+ named := by
  rw [Option.any_eq_true]
  constructor
  · rintro ⟨rest, hfound, hrest⟩
    have hfree := hyphen_notMem_of_isIndex hrest
    obtain ⟨before, heq⟩ := (afterLast?_eq_some_iff hfree).1 hfound
    obtain ⟨rfl, rfl⟩ := eq_of_append_hyphen hindex hfree heq
    exact ⟨hrest, List.suffix_append before form⟩
  · rintro ⟨hisIndex, before, rfl⟩
    exact ⟨index, (afterLast?_eq_some_iff hindex).2 ⟨before, rfl⟩, hisIndex⟩

/-- A word at the end of a text is its last one. -/
theorem hyphen_suffix_iff {w : List Char} (u front : List Char) (hw : '-' ∉ w)
    (hword : '-' ∉ word) :
    u ++ '-' :: w <:+ front ++ '-' :: word ↔ w = word ∧ u <:+ front := by
  constructor
  · rintro ⟨before, heq⟩
    rw [← List.append_assoc] at heq
    obtain ⟨rfl, rfl⟩ := eq_of_append_hyphen hw hword heq
    exact ⟨rfl, List.suffix_append before u⟩
  · rintro ⟨rfl, before, rfl⟩
    exact ⟨before, by simp⟩

end Text

namespace Side

open Text

variable {front word named index handle : List Char} {side : Side}

/-- The corners of a node, each by its two sides. -/
def corners : List (Side × Side) := [(top, left), (top, right), (bottom, left), (bottom, right)]

/-- What stands between the id and the index in the name of a handle, with the side it gives. -/
structure Form where
  text : List Char
  side : Side
deriving DecidableEq

/-- The forms in the order in which they are looked for: the corners, then the sides. -/
def forms : List Form :=
  (corners.map fun corner =>
    ⟨'-' :: corner.1.name.toList ++ '-' :: corner.2.name.toList, corner.1⟩) ++
    all.map fun side => ⟨'-' :: side.name.toList, side⟩

/-- The side of the first form that an index follows where the form, with a hyphen, occurs last. -/
def ofForms? (handle : List Char) : Option Side :=
  forms.findSome? fun form =>
    if (afterLast? (form.text ++ ['-']) handle).any isIndex then some form.side else none

theorem hyphen_notMem_name (side : Side) : '-' ∉ side.name.toList := by
  cases side <;> decide

theorem ofForms?_append (hindex : isIndex index = true) :
    ofForms? (named ++ '-' :: index) =
      forms.findSome? fun form => if form.text <:+ named then some form.side else none := by
  simp only [ofForms?, any_afterLast?_iff (hyphen_notMem_of_isIndex hindex), hindex, true_and]

theorem hyphen_mem_of_mem_forms {form : Form} (h : form ∈ forms) : '-' ∈ form.text := by
  have hall : ∀ form ∈ forms, '-' ∈ form.text := by decide
  exact hall form h

theorem ofName?_eq_some_iff : ofName? word = some side ↔ side.name.toList = word := by
  constructor
  · intro h
    simpa using List.find?_some h
  · rintro rfl
    exact ofName?_name side

theorem name_toList_inj {side' : Side} : side.name.toList = side'.name.toList ↔ side = side' := by
  constructor
  · intro h
    have hname := ofName?_name side
    rw [h, ofName?_name] at hname
    exact (Option.some.inj hname).symm
  · rintro rfl
    rfl

/-- Of the forms at the end of a text the first one names a corner, if there is one. -/
theorem findSome?_forms (hword : '-' ∉ word) :
    (forms.findSome? fun form =>
        if form.text <:+ front ++ '-' :: word then some form.side else none) =
      (ofName? word).map (·.onCorner front) := by
  have hside : ∀ side : Side, '-' :: side.name.toList <:+ front ++ '-' :: word ↔
      side.name.toList = word := by
    intro side
    have h := hyphen_suffix_iff [] front (hyphen_notMem_name side) hword
    simpa using h
  have hcorner : ∀ first second : Side,
      '-' :: first.name.toList ++ '-' :: second.name.toList <:+ front ++ '-' :: word ↔
        second.name.toList = word ∧ first.endsName front = true := by
    intro first second
    rw [hyphen_suffix_iff _ _ (hyphen_notMem_name second) hword, endsName,
      List.isSuffixOf_iff_suffix]
  simp only [forms, List.findSome?_append, List.findSome?_map, Function.comp_def, hside, hcorner]
  cases hname : ofName? word with
  | none =>
    have hne : ∀ side : Side, side.name.toList ≠ word := by
      intro side hside
      rw [ofName?_eq_some_iff.2 hside] at hname
      cases hname
    simp [hne]
  | some side =>
    obtain rfl := ofName?_eq_some_iff.1 hname
    simp only [name_toList_inj, corners, all, List.findSome?_cons, List.findSome?_nil]
    cases side <;> by_cases htop : top.endsName front = true <;>
      by_cases hbottom : bottom.endsName front = true <;> simp [onCorner, htop, hbottom]

theorem ofHandleName?_append (hindex : isIndex index = true) :
    ofHandleName? (named ++ '-' :: index) =
      (splitLast '-' named).bind fun (front, word) => (ofName? word).map (·.onCorner front) := by
  have hparts := splitLast_append named (hyphen_notMem_of_isIndex hindex)
  simp only [ofHandleName?, hparts, Option.bind_eq_bind, Option.bind_some, hindex, guard_true,
    Option.pure_def, Option.map_eq_bind, Function.comp_def]

theorem ofHandleName?_named (hindex : isIndex index = true) :
    ofHandleName? (front ++ '-' :: side.name.toList ++ '-' :: index) =
      some (side.onCorner front) := by
  rw [ofHandleName?_append hindex, splitLast_append front (hyphen_notMem_name side)]
  simp only [Option.bind_some, ofName?_name, Option.map_some]

theorem ofForms?_eq_none (h : ∀ form ∈ forms, ∀ rest, isIndex rest = true →
    ∀ before, handle ≠ before ++ form.text ++ '-' :: rest) : ofForms? handle = none := by
  rw [ofForms?, List.findSome?_eq_none_iff]
  intro form hform
  rw [if_neg]
  rw [Option.any_eq_true]
  rintro ⟨rest, hfound, hindex⟩
  obtain ⟨before, rfl⟩ := (afterLast?_eq_some_iff (hyphen_notMem_of_isIndex hindex)).1 hfound
  exact h form hform rest hindex before rfl

theorem ofHandleName?_eq_ofForms? (handle : List Char) :
    ofHandleName? handle = ofForms? handle := by
  cases hsplit : splitLast '-' handle with
  | none =>
    have hfree := splitLast_eq_none_iff.1 hsplit
    have hnone : ofForms? handle = none := by
      apply ofForms?_eq_none
      rintro form - rest - before rfl
      simp at hfree
    rw [hnone, ofHandleName?, hsplit]
    rfl
  | some parts =>
    obtain ⟨named, index⟩ := parts
    obtain ⟨rfl, hfree⟩ := splitLast_eq_some_iff.1 hsplit
    by_cases hindex : isIndex index = true
    · rw [ofHandleName?_append hindex, ofForms?_append hindex]
      cases hnamed : splitLast '-' named with
      | none =>
        have hnone := splitLast_eq_none_iff.1 hnamed
        symm
        rw [Option.bind_none, List.findSome?_eq_none_iff]
        intro form hform
        rw [if_neg]
        intro hsuffix
        exact hnone (hsuffix.subset (hyphen_mem_of_mem_forms hform))
      | some parts =>
        obtain ⟨front, word⟩ := parts
        obtain ⟨rfl, hword⟩ := splitLast_eq_some_iff.1 hnamed
        exact (findSome?_forms hword).symm
    · have hnone : ofForms? (named ++ '-' :: index) = none := by
        apply ofForms?_eq_none
        intro form _ rest hrest before heq
        obtain ⟨-, rfl⟩ := eq_of_append_hyphen hfree (hyphen_notMem_of_isIndex hrest) heq
        exact hindex hrest
      rw [hnone, ofHandleName?, hsplit]
      simp [hindex, guard]

section Named

variable {id index : String} {first second : Side}

/-- The name of the handle with an index on a side of the node with an id. -/
def handleName (id : String) (side : Side) (index : String) : String :=
  id ++ "-" ++ side.name ++ "-" ++ index

/-- The name of the handle with an index on a corner of the node with an id. -/
def cornerName (id : String) (corner : Side × Side) (index : String) : String :=
  id ++ "-" ++ corner.1.name ++ "-" ++ corner.2.name ++ "-" ++ index

/-- The id ends with a hyphen and the name of the top or the bottom side. -/
def EndsWithTopOrBottom (id : String) : Prop :=
  "-top".toList <:+ id.toList ∨ "-bottom".toList <:+ id.toList

instance : DecidablePred EndsWithTopOrBottom := fun _ => inferInstanceAs (Decidable (_ ∨ _))

theorem endsWithTopOrBottom_iff :
    EndsWithTopOrBottom id ↔ top.endsName id.toList = true ∨ bottom.endsName id.toList = true := by
  simp only [endsName, List.isSuffixOf_iff_suffix]
  rfl

theorem onCorner_eq_self_iff :
    side.onCorner id.toList = side ↔ ¬((side = left ∨ side = right) ∧ EndsWithTopOrBottom id) := by
  rw [endsWithTopOrBottom_iff]
  cases side <;> by_cases htop : top.endsName id.toList = true <;>
    by_cases hbottom : bottom.endsName id.toList = true <;> simp [onCorner, htop, hbottom]

theorem ofHandle?_handleName (hindex : isIndex index.toList = true) :
    ofHandle? (.text (handleName id side index)) = some (side.onCorner id.toList) := by
  have htext : (handleName id side index).toList =
      id.toList ++ '-' :: side.name.toList ++ '-' :: index.toList := by
    simp [handleName, String.toList_append]
  simp only [ofHandle?, htext, ofHandleName?_named hindex]

theorem endsName_append_iff {front : List Char} :
    second.endsName (front ++ '-' :: first.name.toList) = true ↔ second = first := by
  have h := hyphen_suffix_iff [] front (hyphen_notMem_name second) (hyphen_notMem_name first)
  rw [endsName, List.isSuffixOf_iff_suffix]
  simpa [name_toList_inj] using h

theorem onCorner_append {corner : Side × Side} (h : corner ∈ corners) (front : List Char) :
    corner.2.onCorner (front ++ '-' :: corner.1.name.toList) = corner.1 := by
  simp only [corners, List.mem_cons, List.not_mem_nil, or_false] at h
  rcases h with rfl | rfl | rfl | rfl <;> simp [onCorner, endsName_append_iff]

theorem ofHandle?_cornerName {corner : Side × Side} (h : corner ∈ corners)
    (hindex : isIndex index.toList = true) :
    ofHandle? (.text (cornerName id corner index)) = some corner.1 := by
  have htext : (cornerName id corner index).toList =
      id.toList ++ '-' :: corner.1.name.toList ++ '-' :: corner.2.name.toList ++
        '-' :: index.toList := by
    simp [cornerName, String.toList_append]
  simp only [ofHandle?, htext, ofHandleName?_named hindex, onCorner_append h id.toList]

/-- A dependency edge on the left sides of two nodes joins their starts exactly if neither side has
the name of a corner. -/
theorem dependencyKind_of_lefts {e : Edge} {index index' : String}
    (hindex : isIndex index.toList = true) (hindex' : isIndex index'.toList = true)
    (hsource : e.sourceHandle = .text (handleName e.source left index))
    (htarget : e.targetHandle = .text (handleName e.target left index')) :
    e.dependencyKind = .startToStart ↔
      ¬EndsWithTopOrBottom e.source ∧ ¬EndsWithTopOrBottom e.target := by
  have hkind : e.dependencyKind = .startToStart ↔
      e.sourceSide = some left ∧ e.targetSide = some left := by
    simp [Edge.dependencyKind]
  have hside : ∀ id : String, left.onCorner id.toList = left ↔ ¬EndsWithTopOrBottom id := by
    intro id
    simp [onCorner_eq_self_iff]
  rw [hkind, Edge.sourceSide, Edge.targetSide, hsource, htarget, ofHandle?_handleName hindex,
    ofHandle?_handleName hindex', Option.some.injEq, Option.some.injEq, hside, hside]

/-- The name of a handle gives the side of the first form that an index follows.  Whatever the id,
that is the first side of a corner; and it is the side that the name was made with, but for the left
and the right one of an id that ends with a hyphen and `top` or `bottom`.  So a dependency edge on
the left sides of two nodes joins their starts exactly if neither id ends in this way. -/
theorem handle_side_recovered_iff :
    (∀ handle, ofHandleName? handle = ofForms? handle) ∧
      (∀ (id index : String) (side : Side), isIndex index.toList = true →
        (ofHandle? (.text (handleName id side index)) = some side ↔
          ¬((side = left ∨ side = right) ∧ EndsWithTopOrBottom id))) ∧
      (∀ (id index : String), ∀ corner ∈ corners, isIndex index.toList = true →
        ofHandle? (.text (cornerName id corner index)) = some corner.1) ∧
      ∀ (e : Edge) (index index' : String), isIndex index.toList = true →
        isIndex index'.toList = true →
        e.sourceHandle = .text (handleName e.source left index) →
        e.targetHandle = .text (handleName e.target left index') →
        (e.dependencyKind = .startToStart ↔
          ¬EndsWithTopOrBottom e.source ∧ ¬EndsWithTopOrBottom e.target) := by
  refine ⟨ofHandleName?_eq_ofForms?, ?_, ?_, ?_⟩
  · intro id index side hindex
    rw [ofHandle?_handleName hindex, Option.some.injEq, onCorner_eq_self_iff]
  · intro id index corner hcorner hindex
    exact ofHandle?_cornerName hcorner hindex
  · intro e index index' hindex hindex' hsource htarget
    exact dependencyKind_of_lefts hindex hindex' hsource htarget

/-- A dependency edge from the left side of one node to the left side of another. -/
def betweenLefts (source target : String) : Edge :=
  ⟨"e", source, target, true, "True", .null, .text (handleName source left "0"),
    .text (handleName target left "0")⟩

theorem side_words_within_ids :
    ofHandle? (.text (handleName "top-left-0-top-left" right "12")) = some right ∧
      ofHandle? (.text (cornerName "a-top" (bottom, left) "3")) = some bottom ∧
      (betweenLefts "a-left-1" "bottom").dependencyKind = .startToStart :=
  ⟨(handle_side_recovered_iff.2.1 _ _ _ (by decide +kernel)).2 (by decide +kernel),
    handle_side_recovered_iff.2.2.1 _ _ _ (by decide +kernel) (by decide +kernel),
    (handle_side_recovered_iff.2.2.2 (betweenLefts "a-left-1" "bottom") "0" "0" (by decide +kernel)
      (by decide +kernel) rfl rfl).2 (by decide +kernel)⟩

/-- The left side of the node `a-top` and a corner of the node `a` have one name. -/
theorem left_side_read_as_corner :
    handleName "a-top" left "0" = cornerName "a" (top, left) "0" ∧
      (betweenLefts "a-top" "b").sourceSide = some top ∧
      (betweenLefts "a-top" "b").dependencyKind = .finishToFinish := by
  decide +kernel

end Named

end Side

end FlowDiagram
