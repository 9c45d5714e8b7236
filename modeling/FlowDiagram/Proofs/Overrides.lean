import FlowDiagram.Proofs.ShortKeys
import FlowDiagram.CommandLine.Basics

/-! # What overrides change

An override writes to one key that is there, the key that it gives in short.  Which key that is can be
told from the keys of the table alone, and no override changes these.  So in a run of overrides each
key in short means the same at every step, what is written to one key does not matter to the others,
and overrides of different keys may be exchanged.
-/

namespace FlowDiagram.Settings

open OrderedMap

variable {ev : Evaluator} {names : Names} {t t' t₁ t₂ : Settings}

section Keys

theorem resolve_congr (hkeys : t.keys = t'.keys) (short : String) :
    t.resolve short = t'.resolve short := by
  have hsome : (t.get? short).isSome = (t'.get? short).isSome := by
    rw [Bool.eq_iff_iff, isSome_get?_iff, isSome_get?_iff, hkeys]
  simp only [resolve, named, ending, hsome, hkeys]

theorem mem_keys_of_resolve {short k : String} (h : t.resolve short = .ok k) : k ∈ t.keys :=
  (resolve_eq_ok_iff.1 h).mem_keys

theorem lookup_of_resolve {short k : String} {v : Value} (hk : t.resolve short = .ok k)
    (hv : t.get? k = some v) : t.lookup short = .ok (k, v) :=
  lookup_eq_ok_iff.2 ⟨resolve_eq_ok_iff.1 hk, hv⟩

theorem exists_value_of_resolve {short k : String} (hk : t.resolve short = .ok k) :
    ∃ v, t.get? k = some v :=
  exists_get?_of_mem (mem_keys_of_resolve hk)

end Keys

section Step

variable {short expression : String}

/-- An override writes the new value of the key that it means. -/
theorem override_eq_ok :
    override ev names t short expression = .ok t' ↔
      ∃ k v, t.resolve short = .ok k ∧
        newValue ev names ((t.get? k).getD .null) expression = .ok v ∧ t' = t.put k v := by
  simp only [override, lookup, bind_eq_ok, mapError_eq_ok]
  constructor
  · rintro ⟨_, ⟨k, hk, ⟨⟩⟩, v, hv, ⟨⟩⟩
    exact ⟨k, v, hk, hv, rfl⟩
  · rintro ⟨k, v, hk, hv, rfl⟩
    exact ⟨_, ⟨k, hk, rfl⟩, v, hv, rfl⟩

theorem keys_override (h : override ev names t short expression = .ok t') : t'.keys = t.keys := by
  obtain ⟨k, v, hk, -, rfl⟩ := override_eq_ok.1 h
  exact keys_put_of_mem (mem_keys_of_resolve hk) v

theorem get?_override {k k' : String} (h : override ev names t short expression = .ok t')
    (hk : t.resolve short = .ok k) (hne : k ≠ k') : t'.get? k' = t.get? k' := by
  obtain ⟨k₁, v, hk₁, -, rfl⟩ := override_eq_ok.1 h
  rw [hk] at hk₁
  cases hk₁
  rw [get?_put, if_neg hne]

/-- Overrides of different keys may be exchanged. -/
theorem override_swap {a b : String × String} (ha : override ev names t a.1 a.2 = .ok t₁)
    (hb : override ev names t₁ b.1 b.2 = .ok t₂) (hne : t.resolve a.1 ≠ t.resolve b.1) :
    ∃ t₃, override ev names t b.1 b.2 = .ok t₃ ∧ override ev names t₃ a.1 a.2 = .ok t₂ := by
  obtain ⟨k, v, hk, hv, rfl⟩ := override_eq_ok.1 ha
  obtain ⟨k', w, hk', hw, rfl⟩ := override_eq_ok.1 hb
  have hmem := mem_keys_of_resolve hk
  rw [resolve_congr (keys_put_of_mem hmem v)] at hk'
  have hmem' := mem_keys_of_resolve hk'
  have hkk' : k ≠ k' := by
    rintro rfl
    exact hne (hk.trans hk'.symm)
  rw [get?_put, if_neg hkk'] at hw
  refine ⟨t.put k' w, override_eq_ok.2 ⟨k', w, hk', hw, rfl⟩, override_eq_ok.2 ⟨k, v, ?_, ?_, ?_⟩⟩
  · rw [resolve_congr (keys_put_of_mem hmem' w), hk]
  · rw [get?_put, if_neg hkk'.symm, hv]
  · exact put_comm hkk' hmem hmem' v w

end Step

section Run

variable {o : String × String} {os : List (String × String)} {e : OverrideError}

theorem overrideAll_cons_ok (h : override ev names t o.1 o.2 = .ok t') :
    overrideAll ev names t (o :: os) = overrideAll ev names t' os := by
  simp only [overrideAll, h]

theorem overrideAll_cons_error (h : override ev names t o.1 o.2 = .error e) :
    overrideAll ev names t (o :: os) = (t, some e) := by
  simp only [overrideAll, h]

theorem overrideAll_cons_eq_none (h : overrideAll ev names t (o :: os) = (t', none)) :
    ∃ t₁, override ev names t o.1 o.2 = .ok t₁ ∧ overrideAll ev names t₁ os = (t', none) := by
  cases ho : override ev names t o.1 o.2 with
  | error e =>
    rw [overrideAll_cons_error ho] at h
    cases h
  | ok t₁ => exact ⟨t₁, rfl, (overrideAll_cons_ok ho).symm.trans h⟩

theorem overrideAll_singleton :
    overrideAll ev names t [o] = (t', none) ↔ override ev names t o.1 o.2 = .ok t' := by
  constructor
  · intro h
    obtain ⟨_, ho, ⟨⟩⟩ := overrideAll_cons_eq_none h
    exact ho
  · exact overrideAll_cons_ok

/-- A run in two parts: the second starts from what the first leaves, if that does not fail. -/
theorem overrideAll_append (t : Settings) (os os' : List (String × String)) :
    overrideAll ev names t (os ++ os') =
      match overrideAll ev names t os with
      | (t', none) => overrideAll ev names t' os'
      | (t', some e) => (t', some e) := by
  induction os generalizing t with
  | nil => rfl
  | cons o os ih =>
    rw [List.cons_append]
    cases h : override ev names t o.1 o.2 with
    | error e => rw [overrideAll_cons_error h, overrideAll_cons_error h]
    | ok t₁ => rw [overrideAll_cons_ok h, overrideAll_cons_ok h, ih]

theorem keys_overrideAll (ev : Evaluator) (names : Names) (t : Settings)
    (os : List (String × String)) :
    (overrideAll ev names t os).1.keys = t.keys := by
  induction os generalizing t with
  | nil => rfl
  | cons o os ih =>
    cases h : override ev names t o.1 o.2 with
    | error e => rw [overrideAll_cons_error h]
    | ok t₁ => rw [overrideAll_cons_ok h, ih, keys_override h]

/-- A run fails at its first override that fails, and leaves what those before it left. -/
theorem overrideAll_eq_some_iff :
    overrideAll ev names t os = (t', some e) ↔
      ∃ before o after, os = before ++ o :: after ∧ overrideAll ev names t before = (t', none) ∧
        override ev names t' o.1 o.2 = .error e := by
  constructor
  · intro h
    induction os generalizing t with
    | nil => cases h
    | cons o os ih =>
      cases ho : override ev names t o.1 o.2 with
      | error e' =>
        rw [overrideAll_cons_error ho] at h
        cases h
        exact ⟨[], o, os, rfl, rfl, ho⟩
      | ok t₁ =>
        rw [overrideAll_cons_ok ho] at h
        obtain ⟨before, o', after, rfl, hbefore, ho'⟩ := ih h
        exact ⟨o :: before, o', after, rfl, (overrideAll_cons_ok ho).trans hbefore, ho'⟩
  · rintro ⟨before, o, after, rfl, hbefore, ho⟩
    rw [overrideAll_append, hbefore]
    exact overrideAll_cons_error ho

theorem overrideAll_swap {a b : String × String} {before after : List (String × String)}
    (h : overrideAll ev names t (before ++ a :: b :: after) = (t', none))
    (hne : t.resolve a.1 ≠ t.resolve b.1) :
    overrideAll ev names t (before ++ b :: a :: after) = (t', none) := by
  have hkeys := keys_overrideAll ev names t before
  rw [overrideAll_append] at h ⊢
  rcases hbefore : overrideAll ev names t before with ⟨t₀, _ | e⟩
  · rw [hbefore] at h hkeys
    change overrideAll ev names t₀ (a :: b :: after) = (t', none) at h
    change overrideAll ev names t₀ (b :: a :: after) = (t', none)
    rw [← resolve_congr hkeys, ← resolve_congr hkeys] at hne
    obtain ⟨t₁, ha, h⟩ := overrideAll_cons_eq_none h
    obtain ⟨t₂, hb, h⟩ := overrideAll_cons_eq_none h
    obtain ⟨t₃, hb', ha'⟩ := override_swap ha hb hne
    rw [overrideAll_cons_ok hb', overrideAll_cons_ok ha', h]
  · rw [hbefore] at h
    cases h

end Run

/-- A run of overrides keeps the keys and what each key in short means.  An override changes at most
the value of the key that is looked up for it.  A run fails just where an override fails on what
those before it left, and leaves that.  Neighbours that mean different keys may be exchanged. -/
theorem overrides_local_and_independent (ev : Evaluator) (names : Names) (t : Settings) :
    (∀ os, (overrideAll ev names t os).1.keys = t.keys ∧
      ∀ short, (overrideAll ev names t os).1.resolve short = t.resolve short) ∧
    (∀ short expression t', override ev names t short expression = .ok t' →
      ∃ k current, t.lookup short = .ok (k, current) ∧ t.get? k = some current ∧
        t'.keys = t.keys ∧ ∀ k', k' ≠ k → t'.get? k' = t.get? k') ∧
    (∀ os t' e, overrideAll ev names t os = (t', some e) ↔
      ∃ before o after, os = before ++ o :: after ∧ overrideAll ev names t before = (t', none) ∧
        override ev names t' o.1 o.2 = .error e) ∧
    ∀ before a b after t', overrideAll ev names t (before ++ a :: b :: after) = (t', none) →
      t.resolve a.1 ≠ t.resolve b.1 →
      overrideAll ev names t (before ++ b :: a :: after) = (t', none) := by
  refine ⟨fun os => ?_, fun short expression t' h => ?_, fun os t' e => overrideAll_eq_some_iff,
    fun before a b after t' h hne => overrideAll_swap h hne⟩
  · have hkeys := keys_overrideAll ev names t os
    exact ⟨hkeys, resolve_congr hkeys⟩
  · obtain ⟨k, v, hk, -, -⟩ := override_eq_ok.1 h
    obtain ⟨current, hcurrent⟩ := exists_value_of_resolve hk
    exact ⟨k, current, lookup_of_resolve hk hcurrent, hcurrent, keys_override h,
      fun k' hne => get?_override h hk hne.symm⟩

/-- An override by a text that is no expression, and one of a key in short. -/
theorem scenario_and_level_exchanged : ∃ t',
    overrideAll .basic .builtins .default [("scenario", "Night shift"), ("level", "INFO")] = (t', none) ∧
      overrideAll .basic .builtins .default [("level", "INFO"), ("scenario", "Night shift")] =
        (t', none) := by
  have hrun : (overrideAll .basic .builtins .default
      [("scenario", "Night shift"), ("level", "INFO")]).2.isNone = true := by decide +kernel
  have hne : Settings.default.resolve "scenario" ≠ Settings.default.resolve "level" := fun h =>
    absurd (congrArg Except.toOption h) (by decide +kernel)
  rcases h : overrideAll .basic .builtins .default [("scenario", "Night shift"), ("level", "INFO")] with
    ⟨t', _ | e⟩
  · exact ⟨t', rfl,
      (overrides_local_and_independent .basic .builtins .default).2.2.2 [] _ _ [] t' h hne⟩
  · rw [h] at hrun
    cases hrun

end FlowDiagram.Settings
