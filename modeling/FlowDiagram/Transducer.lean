/-! # Transducers

A transducer takes items one by one, gives some output for each and goes on in another state; or it
refuses the item, and then it has refused the whole input.  Taking one input after another gives the
outputs one after another.
-/

namespace FlowDiagram

/-- From each state an item is refused, or gives some output and leads to a state. -/
structure Transducer (σ α β : Type) where
  step : σ → α → Option (List β × σ)

namespace Transducer

variable {σ α β γ : Type}

/-- The output for an input, and the state after it. -/
def run (t : Transducer σ α β) : σ → List α → Option (List β × σ)
  | s, [] => some ([], s)
  | s, x :: xs =>
    (t.step s x).bind fun (first, s') =>
      (run t s' xs).map fun (rest, last) => (first ++ rest, last)

/-- From one state to another the input is taken, and gives the output. -/
def Takes (t : Transducer σ α β) (s : σ) (xs : List α) (ys : List β) (s' : σ) : Prop :=
  t.run s xs = some (ys, s')

variable {t : Transducer σ α β} {s s' s'' : σ} {xs xs' : List α} {ys ys' : List β}

theorem takes_nil : t.Takes s [] [] s := rfl

theorem takes_cons_iff {x : α} :
    t.Takes s (x :: xs) ys s'' ↔
      ∃ first mid rest, t.step s x = some (first, mid) ∧ t.Takes mid xs rest s'' ∧
        ys = first ++ rest := by
  simp only [Takes, run, Option.bind_eq_some_iff, Option.map_eq_some_iff, Prod.exists,
    Prod.mk.injEq]
  constructor
  · rintro ⟨first, mid, hstep, rest, last, hrest, rfl, rfl⟩
    exact ⟨first, mid, rest, hstep, hrest, rfl⟩
  · rintro ⟨first, mid, rest, hstep, hrest, rfl⟩
    exact ⟨first, mid, hstep, rest, s'', hrest, rfl, rfl⟩

theorem Takes.cons {x : α} (hstep : t.step s x = some (ys, s')) (h : t.Takes s' xs ys' s'') :
    t.Takes s (x :: xs) (ys ++ ys') s'' :=
  takes_cons_iff.2 ⟨ys, s', ys', hstep, h, rfl⟩

theorem takes_item {x : α} (hstep : t.step s x = some (ys, s')) : t.Takes s [x] ys s' := by
  simpa using Takes.cons hstep takes_nil

theorem Takes.append (h : t.Takes s xs ys s') (h' : t.Takes s' xs' ys' s'') :
    t.Takes s (xs ++ xs') (ys ++ ys') s'' := by
  induction xs generalizing s ys with
  | nil =>
    cases h
    exact h'
  | cons x xs ih =>
    obtain ⟨first, mid, rest, hstep, hrest, rfl⟩ := takes_cons_iff.1 h
    rw [List.cons_append, List.append_assoc]
    exact .cons hstep (ih hrest)

/-- Inputs that each lead back to the state may be taken one after another. -/
theorem takes_flatMap {input : γ → List α} {output : γ → List β} (items : List γ)
    (h : ∀ i ∈ items, t.Takes s (input i) (output i) s) :
    t.Takes s (items.flatMap input) (items.flatMap output) s := by
  induction items with
  | nil => exact takes_nil
  | cons i items ih =>
    rw [List.flatMap_cons, List.flatMap_cons]
    exact (h i (by simp)).append (ih fun j hj => h j (by simp [hj]))

end Transducer

end FlowDiagram
