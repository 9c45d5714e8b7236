import FlowDiagram.Proofs.Results
import FlowDiagram.Workspace

/-! # Tasks and their outcomes

What a task does is known from what its parts do, each on the workspace that the one before leaves.
Some tasks have an outcome that no workspace changes, however they change the workspace; so has what
is put together from them.
-/

namespace FlowDiagram.Task

variable {ε ε' α β : Type}

theorem perform_bind (t : Task ε α) (f : α → Task ε β) (w : Workspace) :
    (t >>= f).perform w =
      match t.perform w with
      | (.ok a, w') => (f a).perform w'
      | (.error e, w') => (.error e, w') := by
  simp only [perform, ExceptT.run_bind, StateT.run_bind]
  rcases StateT.run (ExceptT.run t) w with ⟨_ | _, w'⟩ <;> rfl

/-- A task that succeeds goes on from what it leaves. -/
theorem perform_bind_of_ok {t : Task ε α} {w w' : Workspace} {a : α}
    (h : t.perform w = (.ok a, w')) (f : α → Task ε β) :
    (t >>= f).perform w = (f a).perform w' := by
  rw [perform_bind, h]

theorem perform_bind_eq_ok {t : Task ε α} {f : α → Task ε β} {w w' : Workspace} {b : β} :
    (t >>= f).perform w = (.ok b, w') ↔
      ∃ a w₁, t.perform w = (.ok a, w₁) ∧ (f a).perform w₁ = (.ok b, w') := by
  rw [perform_bind]
  rcases t.perform w with ⟨_ | a, w₁⟩
  · simp
  · constructor
    · exact fun h => ⟨a, w₁, rfl, h⟩
    · rintro ⟨_, _, ⟨⟩, h⟩
      exact h

/-- Whatever is made of the outcome in the end. -/
theorem perform_thenReturn (t : Task ε α) (f : α → β) (w : Workspace) :
    (do return f (← t) : Task ε β).perform w = ((t.perform w).1.map f, (t.perform w).2) := by
  rw [perform_bind]
  rcases t.perform w with ⟨_ | a, w'⟩ <;> rfl

theorem perform_tryCatch (t : Task ε α) (f : ε → Task ε α) (w : Workspace) :
    (tryCatch t f).perform w =
      match t.perform w with
      | (.ok a, w') => (.ok a, w')
      | (.error e, w') => (f e).perform w' := by
  obtain ⟨r, w', h⟩ : ∃ r w', t.perform w = (r, w') := ⟨_, _, rfl⟩
  have hrun : StateT.run t w = (r, w') := h
  change StateT.run (ExceptT.tryCatch t f) w = _
  rw [h, ExceptT.tryCatch, ExceptT.mk, StateT.run_bind, hrun]
  cases r <;> rfl

theorem perform_mapError (f : ε → ε') (t : Task ε α) (w : Workspace) :
    (mapError f t).perform w = ((t.perform w).1.mapError f, (t.perform w).2) := rfl

theorem perform_mapError_eq_ok {f : ε → ε'} {t : Task ε α} {w w' : Workspace} {a : α} :
    (mapError f t).perform w = (.ok a, w') ↔ t.perform w = (.ok a, w') := by
  rw [perform_mapError, Prod.ext_iff, Prod.ext_iff]
  exact and_congr_left' mapError_eq_ok

theorem perform_ofExcept_bind_eq_ok {e : Except ε α} {f : α → Task ε β} {w w' : Workspace} {b : β} :
    (ofExcept e >>= f).perform w = (.ok b, w') ↔ ∃ a, e = .ok a ∧ (f a).perform w = (.ok b, w') := by
  rw [perform_bind_eq_ok]
  constructor
  · rintro ⟨a, _, he, h⟩
    cases he
    exact ⟨a, rfl, h⟩
  · rintro ⟨a, rfl, h⟩
    exact ⟨a, w, rfl, h⟩

/-- A task that asks for a setting goes on with its value.  The setting is noted, which changes the
value of none. -/
theorem perform_setting_bind (s : Setting) (f : Value → Task ε β) (w : Workspace) :
    (setting s >>= f).perform w =
      (f (w.settings.value s)).perform { w with settings := w.settings.note s } := by
  have hnoted : (setting s : Task ε Value).perform w =
      (.ok ((w.settings.note s).value s), { w with settings := w.settings.note s }) := rfl
  rw [perform_bind, hnoted, Settings.value_note]

/-- A change of the folder is all that is changed, and nothing is if it fails. -/
theorem perform_inFolder (change : Folder → Except ε Folder) (w : Workspace) :
    (inFolder change).perform w =
      match change w.folder with
      | .ok d => (.ok (), { w with folder := d })
      | .error e => (.error e, w) := by
  have hchanged : (inFolder change).perform w =
      (ofExcept (change w.folder) >>= fun d =>
        modify fun w => { w with folder := d } : Task ε Unit).perform w := rfl
  rw [hchanged]
  cases change w.folder <;> rfl

theorem perform_inFolder_of_ok {change : Folder → Except ε Folder} {w : Workspace} {d : Folder}
    (h : change w.folder = .ok d) :
    (inFolder change).perform w = (.ok (), { w with folder := d }) := by
  rw [perform_inFolder, h]

theorem perform_inFolder_eq_ok {change : Folder → Except ε Folder} {w w' : Workspace} {u : Unit} :
    (inFolder change).perform w = (.ok u, w') ↔
      ∃ d, change w.folder = .ok d ∧ w' = { w with folder := d } := by
  rw [perform_inFolder]
  cases change w.folder with
  | error e => simp
  | ok d => simp [eq_comm]

/-- Whatever the workspace, the outcome is this one. -/
def Gives (t : Task ε α) (r : Except ε α) : Prop := ∀ w, (t.perform w).1 = r

namespace Gives

theorem exists_perform {t : Task ε α} {r : Except ε α} (h : t.Gives r) (w : Workspace) :
    ∃ w', t.perform w = (r, w') :=
  ⟨(t.perform w).2, Prod.ext (h w) rfl⟩

theorem ofExcept (r : Except ε α) : (ofExcept r).Gives r := fun _ => rfl

theorem mapError {t : Task ε α} {r : Except ε α} (h : t.Gives r) (f : ε → ε') :
    (mapError f t).Gives (r.mapError f) := fun w => congrArg (Except.mapError f) (h w)

theorem bind {t : Task ε α} {a : α} (h : t.Gives (.ok a)) {f : α → Task ε β} {r : Except ε β}
    (hf : (f a).Gives r) : (t >>= f).Gives r := by
  intro w
  obtain ⟨w', hw⟩ := h.exists_perform w
  rw [perform_bind_of_ok hw]
  exact hf w'

/-- A task whose errors are passed on after work that always succeeds. -/
theorem passOn {t : Task ε α} {r : Except ε α} (h : t.Gives r) {f : ε → Task ε PUnit}
    (hf : ∀ e, (f e).Gives (.ok ⟨⟩)) :
    (tryCatch t fun e => do
      f e
      throw e).Gives r := by
  intro w
  rw [perform_tryCatch]
  have hw := h w
  rcases ht : t.perform w with ⟨_ | a, w'⟩
  · rw [ht] at hw
    subst hw
    exact (hf _).bind (.ofExcept _) w'
  · rw [ht] at hw
    exact hw

/-- What is done for one item after another succeeds if it does for each item. -/
theorem forM {f : α → Task ε PUnit} {xs : List α} (h : ∀ x ∈ xs, (f x).Gives (.ok ⟨⟩)) :
    (xs.forM f).Gives (.ok ⟨⟩) := by
  induction xs with
  | nil => exact fun _ => rfl
  | cons x xs ih => exact (h x (by simp)).bind (ih fun y hy => h y (by simp [hy]))

end Gives

end FlowDiagram.Task
