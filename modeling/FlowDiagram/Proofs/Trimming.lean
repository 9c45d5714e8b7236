import FlowDiagram.Text.Blank
import Mathlib.Data.List.DropRight

/-! # Trimmed and divided texts

Blanks come off a text at its ends, so blanks that are put around it change nothing about what it is
trimmed to, and nothing is left exactly if all of it is blank.  A text divides at the first
occurrence of a character into the part before it, which lacks the character, and the part after it.
-/

namespace FlowDiagram.Text

variable {c : Char} {s w before after : List Char}

/-- Every character of the text is blank. -/
def AllBlank (s : List Char) : Prop := ∀ c ∈ s, isBlank c = true

instance : DecidablePred AllBlank := fun s => List.decidableBAll (fun c => isBlank c = true) s

/-- The text is not empty, and no blank stands at either end of it. -/
def IsTrimmed (s : List Char) : Prop :=
  s ≠ [] ∧ (∀ c ∈ s.head?, isBlank c = false) ∧ ∀ c ∈ s.getLast?, isBlank c = false

instance : DecidablePred IsTrimmed := fun s =>
  @instDecidableAnd _ _ inferInstance <|
    @instDecidableAnd _ _ (Option.decidableForallMem s.head?) (Option.decidableForallMem s.getLast?)

section Blanks

theorem allBlank_nil : AllBlank [] := by simp [AllBlank]

theorem allBlank_cons : AllBlank (c :: s) ↔ isBlank c = true ∧ AllBlank s := by simp [AllBlank]

theorem trimLeft_eq_nil_iff : trimLeft s = [] ↔ AllBlank s := List.dropWhile_eq_nil_iff

theorem trimLeft_append_of_blank (h : AllBlank w) : trimLeft (w ++ s) = trimLeft s :=
  List.dropWhile_append_of_pos h

theorem trimLeft_append (h : ¬AllBlank s) : trimLeft (s ++ w) = trimLeft s ++ w := by
  have hleft : s.dropWhile isBlank ≠ [] := fun hnil => h (trimLeft_eq_nil_iff.1 hnil)
  simp [trimLeft, List.dropWhile_append, hleft]

theorem trimLeft_trimLeft (s : List Char) : trimLeft (trimLeft s) = trimLeft s :=
  List.dropWhile_idempotent isBlank s

theorem allBlank_trimLeft_iff : AllBlank (trimLeft s) ↔ AllBlank s := by
  rw [← trimLeft_eq_nil_iff, trimLeft_trimLeft, trimLeft_eq_nil_iff]

theorem trimRight_eq_rdropWhile (s : List Char) : trimRight s = s.rdropWhile isBlank := rfl

theorem trimRight_eq_nil_iff : trimRight s = [] ↔ AllBlank s := List.rdropWhile_eq_nil_iff

theorem trimRight_append_of_blank (h : AllBlank w) : trimRight (s ++ w) = trimRight s := by
  have hreverse : AllBlank w.reverse := fun c hc => h c (List.mem_reverse.1 hc)
  rw [trimRight, List.reverse_append, trimLeft_append_of_blank hreverse, trimRight]

theorem trimRight_append (h : ¬AllBlank s) : trimRight (w ++ s) = w ++ trimRight s := by
  have hreverse : ¬AllBlank s.reverse := fun hr => h fun c hc => hr c (List.mem_reverse.2 hc)
  simp [trimRight, trimLeft_append hreverse]

/-- The first character stays if anything does. -/
theorem trimRight_cons (h : ¬AllBlank (c :: s)) : trimRight (c :: s) = c :: trimRight s := by
  by_cases hs : AllBlank s
  · have hc : isBlank c = false := by
      by_contra hc
      exact h (allBlank_cons.2 ⟨by simpa using hc, hs⟩)
    have hsingle : trimRight [c] = [c] := by simp [trimRight, trimLeft_cons, hc]
    rw [← List.singleton_append, trimRight_append_of_blank hs, hsingle, trimRight_eq_nil_iff.2 hs]
  · exact trimRight_append (w := [c]) hs

/-- What comes off a text at its right end is blank. -/
theorem exists_eq_trimRight_append (s : List Char) : ∃ w, AllBlank w ∧ s = trimRight s ++ w :=
  ⟨s.rtakeWhile isBlank, fun _ => List.mem_rtakeWhile_imp, List.rdropWhile_append_rtakeWhile.symm⟩

theorem trim_eq_nil_iff : trim s = [] ↔ AllBlank s := by
  rw [trim, trimRight_eq_nil_iff, allBlank_trimLeft_iff]

theorem trim_trimLeft (s : List Char) : trim (trimLeft s) = trim s := by
  rw [trim, trimLeft_trimLeft, trim]

theorem trim_append_of_blank (h : AllBlank w) : trim (s ++ w) = trim s := by
  by_cases hs : AllBlank s
  · have happend : AllBlank (s ++ w) := fun c hc => (List.mem_append.1 hc).elim (hs c) (h c)
    rw [trim_eq_nil_iff.2 hs, trim_eq_nil_iff.2 happend]
  · rw [trim, trimLeft_append hs, trimRight_append_of_blank h, trim]

theorem trim_of_blank_append (h : AllBlank w) : trim (w ++ s) = trim s := by
  rw [trim, trimLeft_append_of_blank h, trim]

theorem IsTrimmed.not_allBlank (h : IsTrimmed s) : ¬AllBlank s := by
  intro hs
  obtain ⟨hnil, hhead, -⟩ := h
  cases s with
  | nil => exact hnil rfl
  | cons c s => simp [hs c] at hhead

theorem IsTrimmed.trimLeft_eq (h : IsTrimmed s) : trimLeft s = s := by
  obtain ⟨hnil, hhead, -⟩ := h
  cases s with
  | nil => rfl
  | cons c s => simp [trimLeft_cons, hhead c rfl]

theorem IsTrimmed.trimRight_eq (h : IsTrimmed s) : trimRight s = s := by
  rw [trimRight_eq_rdropWhile, List.rdropWhile_eq_self_iff]
  intro hnil
  simp [h.2.2 _ (List.getLast?_eq_getLast_of_ne_nil hnil)]

theorem IsTrimmed.trim_eq (h : IsTrimmed s) : trim s = s := by
  rw [trim, h.trimLeft_eq, h.trimRight_eq]

end Blanks

section Splitting

theorem takeWhile_ne_append (h : c ∉ s) (w : List Char) :
    (s ++ w).takeWhile (· ≠ c) = s ++ w.takeWhile (· ≠ c) := by
  apply List.takeWhile_append_of_pos
  intro d hd
  have hne : d ≠ c := fun hdc => h (hdc ▸ hd)
  simpa using hne

/-- The parts before and after the first occurrence of a character. -/
def splitFirst (c : Char) : List Char → Option (List Char × List Char)
  | [] => none
  | d :: s =>
    if d = c then some ([], s) else (splitFirst c s).map fun (before, after) => (d :: before, after)

theorem splitFirst_eq_none_iff : splitFirst c s = none ↔ c ∉ s := by
  induction s with
  | nil => simp [splitFirst]
  | cons d s ih =>
    rw [splitFirst]
    by_cases hd : d = c
    · simp [hd]
    · simp [hd, ih, Ne.symm hd]

/-- A text divides into two parts exactly if it is the parts around the character and the first part
lacks it. -/
theorem splitFirst_eq_some_iff :
    splitFirst c s = some (before, after) ↔ s = before ++ c :: after ∧ c ∉ before := by
  induction s generalizing before with
  | nil => simp [splitFirst]
  | cons d s ih =>
    rw [splitFirst]
    by_cases hd : d = c
    · rw [if_pos hd, hd]
      constructor
      · intro h
        cases h
        simp
      · rintro ⟨h, hfree⟩
        cases before with
        | nil =>
          obtain ⟨-, rfl⟩ := List.cons.inj h
          rfl
        | cons x before => simp [(List.cons.inj h).1] at hfree
    · rw [if_neg hd]
      constructor
      · intro h
        obtain ⟨parts, hsplit, heq⟩ := Option.map_eq_some_iff.1 h
        cases heq
        obtain ⟨rfl, hfree⟩ := ih.1 hsplit
        exact ⟨rfl, by simp [hfree, Ne.symm hd]⟩
      · rintro ⟨h, hfree⟩
        cases before with
        | nil => exact absurd (List.cons.inj h).1 hd
        | cons x before =>
          obtain ⟨rfl, hs⟩ := List.cons.inj h
          rw [ih.2 ⟨hs, fun hmem => hfree (List.mem_cons_of_mem d hmem)⟩]
          rfl

end Splitting

end FlowDiagram.Text
