import Mathlib.Logic.Basic

/-! # Results and errors

What ended well went through parts that ended well, and from its result their results can be told.  What
failed did so in the first of its parts that failed.
-/

namespace FlowDiagram

variable {ε ε' α β : Type}

theorem bind_eq_ok {e : Except ε α} {f : α → Except ε β} {b : β} :
    (e >>= f) = .ok b ↔ ∃ a, e = .ok a ∧ f a = .ok b := by
  cases e with
  | error e =>
    refine iff_of_false nofun ?_
    rintro ⟨_, ⟨⟩, -⟩
  | ok a =>
    constructor
    · exact fun h => ⟨a, rfl, h⟩
    · rintro ⟨_, ⟨⟩, h⟩
      exact h

theorem bind_eq_error {e : Except ε α} {f : α → Except ε β} {x : ε} :
    (e >>= f) = .error x ↔ e = .error x ∨ ∃ a, e = .ok a ∧ f a = .error x := by
  cases e with
  | error y =>
    constructor
    · rintro ⟨⟩
      exact .inl rfl
    · rintro (⟨⟨⟩⟩ | ⟨_, ⟨⟩, -⟩)
      rfl
  | ok a =>
    constructor
    · exact fun h => .inr ⟨a, rfl, h⟩
    · rintro (⟨⟨⟩⟩ | ⟨_, ⟨⟩, h⟩)
      exact h

theorem mapError_eq_ok {e : Except ε α} {f : ε → ε'} {a : α} :
    e.mapError f = .ok a ↔ e = .ok a := by
  cases e with
  | error e => exact iff_of_false nofun nofun
  | ok a' =>
    constructor
    · rintro ⟨⟩
      rfl
    · rintro ⟨⟩
      rfl

theorem mapError_eq_error {e : Except ε α} {f : ε → ε'} {x : ε'} :
    e.mapError f = .error x ↔ ∃ y, e = .error y ∧ f y = x := by
  cases e with
  | error y =>
    constructor
    · rintro ⟨⟩
      exact ⟨y, rfl, rfl⟩
    · rintro ⟨_, ⟨⟩, rfl⟩
      rfl
  | ok a =>
    apply iff_of_false nofun
    rintro ⟨_, ⟨⟩, -⟩

theorem map_eq_error {f : α → β} {e : Except ε α} {x : ε} : e.map f = .error x ↔ e = .error x := by
  cases e with
  | error y =>
    constructor
    · rintro ⟨⟩
      rfl
    · rintro ⟨⟩
      rfl
  | ok a => exact iff_of_false nofun nofun

theorem map_eq_ok {f : α → β} {e : Except ε α} {b : β} :
    e.map f = .ok b ↔ ∃ a, e = .ok a ∧ f a = b := by
  cases e with
  | error e =>
    apply iff_of_false nofun
    rintro ⟨_, ⟨⟩, -⟩
  | ok a =>
    constructor
    · rintro ⟨⟩
      exact ⟨a, rfl, rfl⟩
    · rintro ⟨_, ⟨⟩, rfl⟩
      rfl

theorem exists_of_elim_eq_ok {f : α → β} {o : Option α} {e : ε} {b : β}
    (h : o.elim (.error e) (.ok <| f ·) = Except.ok b) : ∃ a, f a = b := by
  cases o with
  | none => cases h
  | some a =>
    cases h
    exact ⟨a, rfl⟩

/-- What a pass over items that ends well gives comes from its items. -/
theorem mem_of_mapM_eq_ok {f : α → Except ε β} {xs : List α} {ys : List β}
    (h : xs.mapM f = .ok ys) {y : β} : y ∈ ys ↔ ∃ x ∈ xs, f x = .ok y := by
  induction xs generalizing ys with
  | nil =>
    cases h
    simp
  | cons x xs ih =>
    rw [List.mapM_cons, bind_eq_ok] at h
    obtain ⟨y', hy', h⟩ := h
    obtain ⟨ys', hys', ⟨⟩⟩ := bind_eq_ok.1 h
    simp [ih hys', hy', eq_comm]

/-- A pass over items that ends well ends well on each of them. -/
theorem exists_of_mapM_eq_ok {f : α → Except ε β} {xs : List α} {ys : List β}
    (h : xs.mapM f = .ok ys) : ∀ x ∈ xs, ∃ y, f x = .ok y := by
  induction xs generalizing ys with
  | nil => simp
  | cons x xs ih =>
    rw [List.mapM_cons, bind_eq_ok] at h
    obtain ⟨y, hy, h⟩ := h
    obtain ⟨ys', hys', -⟩ := bind_eq_ok.1 h
    rw [List.forall_mem_cons]
    exact ⟨⟨y, hy⟩, ih hys'⟩

/-- A pass over items fails at the first item that fails. -/
theorem mapM_eq_error {f : α → Except ε β} {xs : List α} {e : ε} :
    xs.mapM f = .error e ↔ ∃ before x after, xs = before ++ x :: after ∧
      (∀ y ∈ before, ∃ z, f y = .ok z) ∧ f x = .error e := by
  induction xs with
  | nil =>
    apply iff_of_false nofun
    rintro ⟨before, x, after, h, -⟩
    simp at h
  | cons x xs ih =>
    rw [List.mapM_cons, bind_eq_error]
    constructor
    · rintro (h | ⟨y, hy, h⟩)
      · exact ⟨[], x, xs, rfl, by simp, h⟩
      · rcases bind_eq_error.1 h with h | ⟨_, -, ⟨⟩⟩
        obtain ⟨before, x', after, rfl, hbefore, hx'⟩ := ih.1 h
        exact ⟨x :: before, x', after, rfl, by simpa [hy] using hbefore, hx'⟩
    · rintro ⟨_ | ⟨y, before⟩, x', after, h, hbefore, hx'⟩
      · cases h
        exact .inl hx'
      · cases h
        obtain ⟨z, hz⟩ := hbefore x (by simp)
        have hrest := ih.2 ⟨before, x', after, rfl, fun y hy => hbefore y (by simp [hy]), hx'⟩
        exact .inr ⟨z, hz, bind_eq_error.2 (.inl hrest)⟩

end FlowDiagram
