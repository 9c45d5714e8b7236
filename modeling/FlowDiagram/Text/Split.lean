/-! # Splitting at a character

A text splits at the last occurrence of a character: the part before it, and the part after it,
which does not hold the character.
-/

namespace FlowDiagram.Text

/-- The parts before and after the last occurrence of a character. -/
def splitLast (c : Char) : List Char → Option (List Char × List Char)
  | [] => none
  | d :: s =>
    match splitLast c s with
    | some (before, after) => some (d :: before, after)
    | none => if d = c then some ([], s) else none

theorem splitLast_eq_none_iff {c : Char} {s : List Char} : splitLast c s = none ↔ c ∉ s := by
  induction s with
  | nil => simp [splitLast]
  | cons d s ih =>
    rw [splitLast]
    cases h : splitLast c s with
    | some p =>
      have : c ∈ s := by
        by_cases hc : c ∈ s
        · exact hc
        · rw [ih.2 hc] at h
          cases h
      simp [this]
    | none =>
      have hs := ih.1 h
      by_cases hd : d = c
      · simp [hd]
      · simp [hd, hs, Ne.symm hd]

/-- A text splits into two parts exactly if it is the parts around the character and the second
part lacks it. -/
theorem splitLast_eq_some_iff {c : Char} {s before after : List Char} :
    splitLast c s = some (before, after) ↔ s = before ++ c :: after ∧ c ∉ after := by
  induction s generalizing before after with
  | nil => simp [splitLast]
  | cons d s ih =>
    rw [splitLast]
    cases h : splitLast c s with
    | some p =>
      obtain ⟨hs, hc⟩ := ih.1 h
      constructor
      · intro e
        cases e
        exact ⟨by rw [hs]; rfl, hc⟩
      · rintro ⟨e, hn⟩
        cases before with
        | nil =>
          obtain ⟨-, rfl⟩ := List.cons.inj e
          exact absurd (hs ▸ by simp) hn
        | cons x before =>
          obtain ⟨rfl, hs'⟩ := List.cons.inj e
          have := h.symm.trans (ih.2 ⟨hs', hn⟩)
          cases this
          rfl
    | none =>
      have hs := splitLast_eq_none_iff.1 h
      constructor
      · intro e
        by_cases hd : d = c
        · simp only [hd, if_true, Option.some.injEq, Prod.mk.injEq] at e
          obtain ⟨rfl, rfl⟩ := e
          exact ⟨by rw [hd]; rfl, hs⟩
        · simp [hd] at e
      · rintro ⟨e, hn⟩
        cases before with
        | nil =>
          obtain ⟨rfl, rfl⟩ := List.cons.inj e
          simp
        | cons x before =>
          obtain ⟨-, hs'⟩ := List.cons.inj e
          exact absurd (hs' ▸ by simp) hs

end FlowDiagram.Text
