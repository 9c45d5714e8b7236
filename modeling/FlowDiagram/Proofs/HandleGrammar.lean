import FlowDiagram.Proofs.HandleSides

/-! # The grammar of handle names

A handle gives a side exactly if its name is any text, the name of a side and an index, joined by
hyphens.  Of the text only the end matters: where it names a corner together with the side after it,
the handle gives the first side of the corner, and in all other cases the side that is named last.
-/

namespace FlowDiagram.Side

open Text

variable {front index : String} {word side : Side} {handle : Value}

/-- The side that a handle gives by its name's last word and by the text before it: the first side
of the corner that they name together, or else the side of the word. -/
inductive Gives (front : String) : Side → Side → Prop where
  | corner {first second : Side} : (first, second) ∈ corners →
      ("-" ++ first.name).toList <:+ front.toList → Gives front second first
  | word {side : Side} :
      (∀ first, (first, side) ∈ corners → ¬("-" ++ first.name).toList <:+ front.toList) →
      Gives front side side

theorem onCorner_of_suffix {first : Side} (hcorner : (first, word) ∈ corners)
    (hend : ("-" ++ first.name).toList <:+ front.toList) : word.onCorner front.toList = first := by
  obtain ⟨before, hfront⟩ := hend
  rw [← hfront, String.toList_append]
  exact onCorner_append hcorner before

theorem onCorner_of_no_corner
    (h : ∀ first, (first, word) ∈ corners → ¬("-" ++ first.name).toList <:+ front.toList) :
    word.onCorner front.toList = word := by
  rw [onCorner_eq_self_iff]
  rintro ⟨hword, hend⟩
  have hcorners : (top, word) ∈ corners ∧ (bottom, word) ∈ corners := by
    rcases hword with rfl | rfl <;> decide
  rcases hend with htop | hbottom
  · exact h top hcorners.1 htop
  · exact h bottom hcorners.2 hbottom

theorem gives_iff : Gives front word side ↔ word.onCorner front.toList = side := by
  constructor
  · intro h
    cases h with
    | corner hcorner hend => exact onCorner_of_suffix hcorner hend
    | word hnone => exact onCorner_of_no_corner hnone
  · rintro rfl
    by_cases h : ∃ first, (first, word) ∈ corners ∧ ("-" ++ first.name).toList <:+ front.toList
    · obtain ⟨first, hcorner, hend⟩ := h
      rw [onCorner_of_suffix hcorner hend]
      exact .corner hcorner hend
    · have hnone : ∀ first, (first, word) ∈ corners →
          ¬("-" ++ first.name).toList <:+ front.toList := by
        intro first hcorner hend
        exact h ⟨first, hcorner, hend⟩
      rw [onCorner_of_no_corner hnone]
      exact .word hnone

theorem exists_of_ofHandleName? {s : List Char} (h : ofHandleName? s = some side) :
    ∃ (front : List Char) (word : Side) (index : List Char),
      s = front ++ '-' :: word.name.toList ++ '-' :: index ∧ isIndex index = true := by
  simp only [ofHandleName?, Option.bind_eq_bind, Option.bind_eq_some_iff] at h
  obtain ⟨⟨named, index⟩, hs, _, hguard, ⟨front, name⟩, hnamed, word, hword, -⟩ := h
  obtain ⟨rfl, -⟩ := splitLast_eq_some_iff.1 hs
  obtain ⟨rfl, -⟩ := splitLast_eq_some_iff.1 hnamed
  obtain rfl := ofName?_eq_some_iff.1 hword
  have hindex : isIndex index = true := by
    by_contra hnot
    simp [guard, hnot] at hguard
  exact ⟨front, word, index, by simp, hindex⟩

theorem exists_of_ofHandle? (h : ofHandle? handle = some side) :
    ∃ front word index, handle = .text (handleName front word index) ∧
      isIndex index.toList = true := by
  cases handle with
  | text s =>
    obtain ⟨front, word, index, hs, hindex⟩ := exists_of_ofHandleName? h
    refine ⟨String.ofList front, word, String.ofList index, ?_, by simpa using hindex⟩
    simp [handleName, ← String.toList_inj, String.toList_append, hs]
  | _ => cases h

/-- A handle gives a side exactly if its name is a text, the name of a side and an index, and then
it gives the side that the text and the named side give, whatever the text holds before its end.  To
look for the forms one after another, each where it occurs last, finds the same. -/
theorem handle_side_follows_grammar (handle : Value) :
    ((∃ side, ofHandle? handle = some side) ↔
        ∃ front word index, handle = .text (handleName front word index) ∧
          isIndex index.toList = true) ∧
      (∀ front word index, handle = .text (handleName front word index) →
        isIndex index.toList = true →
        ∀ side, ofHandle? handle = some side ↔ Gives front word side) ∧
      ∀ s, handle = .text s → ofForms? s.toList = ofHandle? handle := by
  refine ⟨⟨?_, ?_⟩, ?_, ?_⟩
  · rintro ⟨side, h⟩
    exact exists_of_ofHandle? h
  · rintro ⟨front, word, index, rfl, hindex⟩
    exact ⟨word.onCorner front.toList, ofHandle?_handleName hindex⟩
  · rintro front word index rfl hindex side
    rw [ofHandle?_handleName hindex, Option.some.injEq, gives_iff]
  · rintro s rfl
    exact (ofHandleName?_eq_ofForms? s.toList).symm

/-- Forms of other sides before the end count for nothing, and digits of any kind make an index. -/
theorem corner_after_other_forms :
    let handle := "n-top-left-0-left-bottom-right-٣²"
    isIndex "٣²".toList = true ∧ ofHandle? (.text handle) = some bottom ∧
      ofHandle? (.text handle) ≠ some right ∧ ofForms? handle.toList = some bottom := by
  intro handle
  have hindex : isIndex "٣²".toList = true := by decide +kernel
  obtain ⟨-, hgives, hforms⟩ := handle_side_follows_grammar (.text handle)
  have hside := hgives "n-top-left-0-left-bottom" right "٣²" rfl hindex
  have hbottom := (hside bottom).2 (.corner (by decide) (by decide))
  refine ⟨hindex, hbottom, ?_, (hforms handle rfl).trans hbottom⟩
  rw [hbottom]
  decide

end FlowDiagram.Side
