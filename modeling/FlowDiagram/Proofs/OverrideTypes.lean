import FlowDiagram.Proofs.Overrides

/-! # Types of overridden settings

Turning a value into a type gives a value of that type, so an override gives a setting a value of the
type it has, where null counts as text.  A value of a narrower type may take its place, as a truth value
may that of a whole number, and then the next override has to give a value of the narrower type.  So the
last override of a setting decides its value alone, unless an earlier one narrowed its type.
-/

namespace FlowDiagram

namespace ValueType

variable {s t : ValueType} {p q r : PlainType} {type : OtherType}

theorem isKindOf_refl (t : ValueType) : t.isKindOf t = true := by
  cases t with
  | plain p => simp [isKindOf, PlainType.isKindOf]
  | other t => cases h : t.base <;> simp [isKindOf, h]

theorem isKindOf_plain : (plain p).isKindOf (plain q) = true ↔ p = q ∨ p = .bool ∧ q = .int := by
  simp [isKindOf, PlainType.isKindOf]

theorem isKindOf_other :
    (other type).isKindOf (plain q) = true ↔
      ∃ p, type.base = some p ∧ (plain p).isKindOf (plain q) = true := by
  simp [isKindOf, Option.any_eq_true]

theorem isKindOf_plain_trans (hpq : (plain p).isKindOf (plain q) = true)
    (hqr : (plain q).isKindOf (plain r) = true) : (plain p).isKindOf (plain r) = true := by
  rw [isKindOf_plain] at hpq hqr ⊢
  rcases hpq with rfl | ⟨rfl, rfl⟩
  · exact hqr
  · rcases hqr with rfl | ⟨⟨⟩, -⟩
    exact .inr ⟨rfl, rfl⟩

theorem isKindOf_trans (hst : s.isKindOf t = true) (ht : t.isKindOf (plain q) = true) :
    s.isKindOf (plain q) = true := by
  cases t with
  | plain p =>
    cases s with
    | plain r => exact isKindOf_plain_trans hst ht
    | other s =>
      obtain ⟨r, hr, hrp⟩ := isKindOf_other.1 hst
      exact isKindOf_other.2 ⟨r, hr, isKindOf_plain_trans hrp ht⟩
  | other t =>
    obtain ⟨p, hp, hpq⟩ := isKindOf_other.1 ht
    cases s with
    | plain r => cases hst
    | other s =>
      have hbase : s.base = some p := by
        simp only [isKindOf, Bool.and_eq_true, hp, Option.all_some, decide_eq_true_iff] at hst
        exact hst.2
      exact isKindOf_other.2 ⟨p, hbase, hpq⟩

theorem eq_text_of_isKindOf_plain (h : (plain .text).isKindOf (plain p) = true) : p = .text := by
  rcases isKindOf_plain.1 h with rfl | ⟨⟨⟩, -⟩
  rfl

theorem eq_text_of_isKindOf (htext : s.isKindOf (plain .text) = true)
    (h : s.isKindOf (plain p) = true) : p = .text := by
  have hplain : ∀ q, (plain q).isKindOf (plain .text) = true → (plain q).isKindOf (plain p) = true →
      p = .text := by
    intro q hq hqp
    rcases isKindOf_plain.1 hq with rfl | ⟨-, ⟨⟩⟩
    exact eq_text_of_isKindOf_plain hqp
  cases s with
  | plain q => exact hplain q htext h
  | other s =>
    obtain ⟨q, hq, hqtext⟩ := isKindOf_other.1 htext
    obtain ⟨q', hq', hqp⟩ := isKindOf_other.1 h
    cases hq.symm.trans hq'
    exact hplain q hqtext hqp

/-- Two types of which each is a kind of the other are the same, if one of them is of the seven. -/
theorem eq_of_isKindOf (h : t.isKindOf (plain p) = true) (h' : (plain p).isKindOf t = true) :
    t = plain p := by
  cases t with
  | other t => cases h'
  | plain q =>
    rcases isKindOf_plain.1 h with rfl | ⟨rfl, rfl⟩
    · rfl
    · cases h'

end ValueType

namespace Value

variable {v w : Value} {type : ValueType} {room : Nat}

/-- A value that a setting may have: null, or one of the seven types. -/
def IsPlain (v : Value) : Prop := v = null ∨ ∃ p, v.type? = some (.plain p)

/-- A value is of a type if its own type is of a kind with it. -/
theorem isOf_iff : v.isOf type = true ↔ ∃ own, v.type? = some own ∧ own.isKindOf type = true := by
  rw [isOf, Option.any_eq_true]

theorem isOf_of_type? (h : v.type? = some type) : v.isOf type = true :=
  isOf_iff.2 ⟨type, h, type.isKindOf_refl⟩

theorem toInt_eq_ok (h : v.toInt = .ok w) : ∃ i, w = int i := by
  unfold toInt at h
  split at h
  · obtain ⟨i, rfl⟩ := exists_of_elim_eq_ok h
    exact ⟨i, rfl⟩
  · split at h
    · cases h
      exact ⟨_, rfl⟩
    · obtain ⟨i, -, rfl⟩ := map_eq_ok.1 h
      exact ⟨i, rfl⟩
    · cases h

theorem toFloat_eq_ok (h : v.toFloat = .ok w) : ∃ x, w = float x := by
  unfold toFloat at h
  split at h
  · obtain ⟨x, rfl⟩ := exists_of_elim_eq_ok h
    exact ⟨x, rfl⟩
  · split at h
    · obtain ⟨x, -, rfl⟩ := map_eq_ok.1 h
      exact ⟨x, rfl⟩
    · cases h

theorem toMapping_eq_ok (h : v.toMapping room = .ok w) : ∃ es, w = mapping es := by
  unfold toMapping at h
  split at h
  · cases h
    exact ⟨_, rfl⟩
  · split at h
    · cases h
      exact ⟨_, rfl⟩
    · cases h
  · cases hitems : v.items with
    | error e =>
      rw [hitems] at h
      cases h
    | ok items =>
      rw [hitems] at h
      obtain ⟨es, -, rfl⟩ := map_eq_ok.1 h
      exact ⟨_, rfl⟩

end Value

namespace Settings

open OrderedMap Value

variable {ev : Evaluator} {names : Names} {type : ValueType} {p : PlainType} {expression : String}
  {current u v w : Value}

/-- One of the seven types makes values of that very type. -/
theorem type?_made {room : Nat} (h : made room v p = .ok w) : w.type? = some (.plain p) := by
  cases p with
  | bool =>
    cases h
    rfl
  | int =>
    obtain ⟨i, rfl⟩ := toInt_eq_ok h
    rfl
  | float =>
    obtain ⟨x, rfl⟩ := toFloat_eq_ok h
    rfl
  | text =>
    cases h
    rfl
  | list =>
    obtain ⟨items, -, rfl⟩ := map_eq_ok.1 h
    rfl
  | tuple =>
    obtain ⟨items, -, rfl⟩ := map_eq_ok.1 h
    rfl
  | mapping =>
    obtain ⟨es, rfl⟩ := toMapping_eq_ok h
    rfl

theorem type?_converted (h : converted ev (.plain p) v = .ok w) : w.type? = some (.plain p) := by
  cases hknown : v.isKnown with
  | true =>
    simp only [converted, hknown] at h
    exact type?_made h
  | false =>
    simp only [converted, hknown] at h
    exact ev.type?_construct h

theorem isOf_of_coerce (h : coerce ev type v = .ok w) : w.isOf type = true := by
  unfold coerce at h
  split at h
  · next hv =>
    cases h
    exact hv
  · cases type with
    | plain p => exact isOf_of_type? (type?_converted h)
    | other t => exact ev.isOf_construct h

theorem coerced_eq_ok_iff :
    coerced ev names type expression v = .ok w ↔
      coerce ev type (meant names type expression v) = .ok w := by
  unfold coerced
  rcases coerce ev type (meant names type expression v) with f | w
  · by_cases hmisuse : f.isMisuse = true <;> simp [hmisuse]
  · simp

theorem evaluate_eq_ok_iff :
    evaluate ev names (some type) expression = .ok w ↔
      ∃ v, evaluated ev names (some type) expression = .ok v ∧
        coerce ev type (meant names type expression v) = .ok w := by
  simp only [evaluate, bind_eq_ok, mapError_eq_ok, coerced_eq_ok_iff]

theorem newValue_eq_ok (h : newValue ev names current expression = .ok v) :
    v = null ∧ mayBeUnset current = true ∨ v.isOf (wantedType current) = true := by
  unfold newValue at h
  split at h
  · next hunset =>
    cases h
    exact .inl ⟨rfl, (Bool.and_eq_true_iff.1 hunset).2⟩
  · obtain ⟨u, -, hw⟩ := evaluate_eq_ok_iff.1 h
    exact .inr (isOf_of_coerce hw)

/-- A value of a type that is narrower than one of the seven is not what that one makes of other
values: an expression gives it where the narrower type is wanted too. -/
theorem evaluate_of_isOf (htype : type.isKindOf (.plain p) = true)
    (h : evaluate ev names (some (.plain p)) expression = .ok w) (hw : w.isOf type = true) :
    evaluate ev names (some type) expression = .ok w := by
  by_cases hsame : type = .plain p
  · rw [hsame]
    exact h
  obtain ⟨own, hown, hkind⟩ := isOf_iff.1 hw
  have hnarrow : own ≠ .plain p := by
    rintro rfl
    exact hsame (ValueType.eq_of_isKindOf htype hkind)
  obtain ⟨v, hv, hcoerce⟩ := evaluate_eq_ok_iff.1 h
  have hmeant : meant names (.plain p) expression v = w := by
    unfold coerce at hcoerce
    split at hcoerce
    · exact Except.ok.inj hcoerce
    · rw [type?_converted hcoerce] at hown
      exact absurd (Option.some.inj hown).symm hnarrow
  -- A text that stands for itself is of no such type.
  have htext : w ≠ text expression := by
    rintro rfl
    cases hown
    have hp := ValueType.eq_text_of_isKindOf_plain (ValueType.isKindOf_trans hkind htype)
    subst hp
    exact hnarrow rfl
  have hvalue : v = w := by
    unfold meant at hmeant
    split at hmeant
    · exact absurd hmeant.symm htext
    · exact hmeant
  subst hvalue
  refine evaluate_eq_ok_iff.2 ⟨v, ?_, ?_⟩
  · unfold evaluated at hv ⊢
    split at hv
    · exact hv
    · split at hv
      · cases hv
        exact absurd rfl htext
      · cases hv
  · simp only [meant, hw, Bool.not_true, Bool.and_false, Bool.false_eq_true, if_false, coerce, if_true]

theorem wantedType_of_type? (h : v.type? = some type) : wantedType v = type := by
  rw [wantedType, h, Option.getD_some]

theorem ne_null_of_isOf (h : v.isOf type = true) : v ≠ null := by
  rintro rfl
  cases h

theorem exists_wantedType (h : v.IsPlain) : ∃ p, wantedType v = .plain p := by
  rcases h with rfl | ⟨p, hp⟩
  · exact ⟨.text, rfl⟩
  · exact ⟨p, wantedType_of_type? hp⟩

/-- An override gives a value of the type that is wanted or of a narrower one, where null counts as a
text. -/
theorem wantedType_newValue (hcurrent : (wantedType current).isKindOf (.plain p) = true)
    (h : newValue ev names current expression = .ok v) :
    (wantedType v).isKindOf (.plain p) = true := by
  rcases newValue_eq_ok h with ⟨rfl, hunset⟩ | hv
  · rw [ValueType.eq_text_of_isKindOf hunset hcurrent]
    rfl
  · obtain ⟨own, hown, hkind⟩ := isOf_iff.1 hv
    rw [wantedType_of_type? hown]
    exact ValueType.isKindOf_trans hkind hcurrent

section Twice

variable {first second last : Value} {expression' : String}

theorem mayBeUnset_of_isKindOf (hcurrent : wantedType current = .plain p)
    (hfirst : (wantedType first).isKindOf (.plain p) = true) :
    mayBeUnset first = mayBeUnset current := by
  rw [Bool.eq_iff_iff, mayBeUnset, mayBeUnset, hcurrent]
  constructor
  · intro h
    rw [ValueType.eq_text_of_isKindOf h hfirst]
    rfl
  · exact ValueType.isKindOf_trans hfirst

/-- After another override an expression gives the value that it gives without exactly if that value is
null or of the type that the other override has left. -/
theorem newValue_after_iff (hcurrent : current.IsPlain)
    (hfirst : newValue ev names current expression = .ok first)
    (hlast : newValue ev names first expression' = .ok last)
    (hsecond : newValue ev names current expression' = .ok second) :
    last = second ↔ second = null ∨ second.isOf (wantedType first) = true := by
  obtain ⟨p, hp⟩ := exists_wantedType hcurrent
  have hnarrow : (wantedType first).isKindOf (.plain p) = true := by
    apply wantedType_newValue _ hfirst
    rw [hp]
    exact ValueType.isKindOf_refl _
  have hunset := mayBeUnset_of_isKindOf hp hnarrow
  by_cases hnone : (expression' = "None" && mayBeUnset current) = true
  · rw [newValue, if_pos hnone] at hsecond
    rw [newValue, hunset, if_pos hnone] at hlast
    cases hsecond
    cases hlast
    simp
  · rw [newValue, if_neg hnone, hp] at hsecond
    rw [newValue, hunset, if_neg hnone] at hlast
    constructor
    · rintro rfl
      obtain ⟨u, -, hu⟩ := evaluate_eq_ok_iff.1 hlast
      exact .inr (isOf_of_coerce hu)
    · rintro (hnull | hof)
      · obtain ⟨u, -, hu⟩ := evaluate_eq_ok_iff.1 hsecond
        exact absurd hnull (ne_null_of_isOf (isOf_of_coerce hu))
      · rw [evaluate_of_isOf hnarrow hsecond hof] at hlast
        exact (Except.ok.inj hlast).symm

/-- Among values of the seven types only the truth values narrow a type. -/
theorem narrowed_iff (hcurrent : current.IsPlain) (hfirstPlain : first.IsPlain)
    (hsecondPlain : second.IsPlain) (hfirst : newValue ev names current expression = .ok first)
    (hsecond : newValue ev names current expression' = .ok second) :
    (second = null ∨ second.isOf (wantedType first) = true) ↔
      ¬∃ i b j, current = int i ∧ first = bool b ∧ second = int j := by
  obtain ⟨p, hp⟩ := exists_wantedType hcurrent
  obtain ⟨q, hq⟩ := exists_wantedType hfirstPlain
  have hnarrow : (wantedType first).isKindOf (.plain p) = true := by
    apply wantedType_newValue _ hfirst
    rw [hp]
    exact ValueType.isKindOf_refl _
  constructor
  · rintro h ⟨i, b, j, rfl, rfl, rfl⟩
    rcases h with h | h <;> cases h
  · intro h
    rw [hq] at hnarrow ⊢
    rcases ValueType.isKindOf_plain.1 hnarrow with rfl | ⟨rfl, rfl⟩
    · rw [← hp]
      exact (newValue_eq_ok hsecond).imp_left And.left
    · obtain ⟨i, rfl⟩ : ∃ i, current = int i := by
        cases current <;> cases hp
        exact ⟨_, rfl⟩
      obtain ⟨b, rfl⟩ : ∃ b, first = bool b := by
        cases first <;> cases hq
        exact ⟨_, rfl⟩
      have hint : second.isOf (.plain .int) = true :=
        (newValue_eq_ok hsecond).resolve_left fun hnull => by cases hnull.2
      obtain ⟨own, hown, hkind⟩ := isOf_iff.1 hint
      rcases hsecondPlain with rfl | ⟨r, hr⟩
      · exact .inl rfl
      · cases hown.symm.trans hr
        rcases ValueType.isKindOf_plain.1 hkind with rfl | ⟨rfl, -⟩
        · obtain ⟨j, rfl⟩ : ∃ j, second = int j := by
            cases second <;> cases hr
            exact ⟨_, rfl⟩
          exact absurd ⟨i, b, j, rfl, rfl, rfl⟩ h
        · exact .inr (isOf_of_type? hr)

end Twice

/-- All values of the table are null or of one of the seven types. -/
def IsPlain (t : Settings) : Prop := ∀ v ∈ t.values, v.IsPlain

theorem isPlain_of_get? {t : Settings} (h : t.IsPlain) {k : String} (hk : t.get? k = some v) :
    v.IsPlain :=
  h v (mem_values.2 ⟨k, hk⟩)

theorem get?_put_self (t : Settings) (k : String) (v : Value) : (t.put k v).get? k = some v := by
  rw [get?_put, if_pos rfl]

theorem put_put_eq_iff {t : Settings} {k : String} (hk : k ∈ t.keys) (first last second : Value) :
    (t.put k first).put k last = t.put k second ↔ last = second := by
  rw [put_put hk]
  constructor
  · intro h
    simpa only [get?_put_self, Option.some.injEq] using congrArg (get? · k) h
  · intro h
    rw [h]

/-- Two overrides by one key in short write to one key, and so does the second alone. -/
theorem exists_values_of_twice {t t₁ t₂ : Settings} {short expression expression' : String}
    (hboth : overrideAll ev names t [(short, expression), (short, expression')] = (t₁, none))
    (hlast : overrideAll ev names t [(short, expression')] = (t₂, none)) :
    ∃ k current first last second, t.resolve short = .ok k ∧ t.get? k = some current ∧
      newValue ev names current expression = .ok first ∧
      newValue ev names first expression' = .ok last ∧
      newValue ev names current expression' = .ok second ∧
      (overrideAll ev names t [(short, expression)]).1 = t.put k first ∧
      t₁ = (t.put k first).put k last ∧ t₂ = t.put k second := by
  obtain ⟨t', hfirst, hrest⟩ := overrideAll_cons_eq_none hboth
  have hbetween := congrArg Prod.fst (overrideAll_singleton.2 hfirst)
  obtain ⟨k, first, hk, hnew, rfl⟩ := override_eq_ok.1 hfirst
  obtain ⟨current, hcurrent⟩ := exists_value_of_resolve hk
  obtain ⟨k₁, last, hk₁, hnewLast, rfl⟩ := override_eq_ok.1 (overrideAll_singleton.1 hrest)
  obtain ⟨k₂, second, hk₂, hnewSecond, rfl⟩ := override_eq_ok.1 (overrideAll_singleton.1 hlast)
  rw [resolve_congr (keys_put_of_mem (mem_keys_of_resolve hk) first)] at hk₁
  cases hk.symm.trans hk₁
  cases hk.symm.trans hk₂
  rw [hcurrent, Option.getD_some] at hnew hnewSecond
  rw [get?_put_self, Option.getD_some] at hnewLast
  exact ⟨k, current, first, last, second, hk, hcurrent, hnew, hnewLast, hnewSecond, hbetween, rfl,
    rfl⟩

/-- Two overrides by the same key in short leave what the second alone leaves exactly if the value that
the second alone puts is null or of the type that the first has left.  Where all values are null or of
one of the seven types, it fails just if the first override puts a truth value for a whole number and
the second alone would put a whole number. -/
theorem last_override_wins_iff {t t₁ t₂ : Settings} {short expression expression' : String}
    (hplain : t.IsPlain)
    (hboth : overrideAll ev names t [(short, expression), (short, expression')] = (t₁, none))
    (hlast : overrideAll ev names t [(short, expression')] = (t₂, none)) :
    let between := (overrideAll ev names t [(short, expression)]).1
    (t₁ = t₂ ↔ ∀ k first second, t.resolve short = .ok k → between.get? k = some first →
      t₂.get? k = some second → second = null ∨ second.isOf (wantedType first) = true) ∧
    (between.IsPlain → t₂.IsPlain → (t₁ = t₂ ↔ ¬∃ k i b j, t.lookup short = .ok (k, int i) ∧
      between.get? k = some (bool b) ∧ t₂.get? k = some (int j))) := by
  intro between
  obtain ⟨k, current, first, last, second, hk, hcurrent, hnew, hnewLast, hnewSecond, hbetween, rfl,
    rfl⟩ := exists_values_of_twice hboth hlast
  have hcurrentPlain := isPlain_of_get? hplain hcurrent
  have hwins : (t.put k first).put k last = t.put k second ↔
      second = null ∨ second.isOf (wantedType first) = true :=
    (put_put_eq_iff (mem_keys_of_resolve hk) first last second).trans
      (newValue_after_iff hcurrentPlain hnew hnewLast hnewSecond)
  have hfirst : between.get? k = some first :=
    (congrArg (get? · k) hbetween).trans (get?_put_self t k first)
  have hsecond := get?_put_self t k second
  constructor
  · rw [hwins]
    constructor
    · intro h k' first' second' hk' hfirst' hsecond'
      cases hk.symm.trans hk'
      cases hfirst.symm.trans hfirst'
      cases hsecond.symm.trans hsecond'
      exact h
    · intro h
      exact h k first second hk hfirst hsecond
  · intro hbetweenPlain hlastPlain
    rw [hwins, narrowed_iff hcurrentPlain (isPlain_of_get? hbetweenPlain hfirst)
      (isPlain_of_get? hlastPlain hsecond) hnew hnewSecond, lookup_of_resolve hk hcurrent]
    apply not_congr
    constructor
    · rintro ⟨i, b, j, rfl, rfl, rfl⟩
      exact ⟨k, i, b, j, rfl, hfirst, hsecond⟩
    · rintro ⟨_, i, b, j, ⟨⟩, hb, hj⟩
      exact ⟨i, b, j, rfl, Option.some.inj (hfirst.symm.trans hb),
        Option.some.inj (hsecond.symm.trans hj)⟩

/-- A table of one whole number. -/
def sized : Settings := .ofList [("size", int 5)]

theorem sized_isPlain : sized.IsPlain := by
  intro v hv
  cases List.mem_singleton.1 hv
  exact .inr ⟨.int, rfl⟩

theorem size_overridden_twice :
    sized.IsPlain ∧ ∃ t₁ t₂,
      overrideAll .basic .builtins sized [("size", "'12'"), ("size", "7 // 2")] = (t₁, none) ∧
      overrideAll .basic .builtins sized [("size", "7 // 2")] = (t₂, none) ∧ t₁ = t₂ := by
  have hboth : overrideAll .basic .builtins sized [("size", "'12'"), ("size", "7 // 2")] =
    (.ofList [("size", int 3)], none) := rfl
  have hlast : overrideAll .basic .builtins sized [("size", "7 // 2")] =
    (.ofList [("size", int 3)], none) := rfl
  refine ⟨sized_isPlain, _, _, hboth, hlast,
    (last_override_wins_iff sized_isPlain hboth hlast).1.2 ?_⟩
  intro k first second hk hfirst hsecond
  cases hk
  cases hfirst
  cases hsecond
  exact .inr rfl

/-- A truth value in between narrows the type, so that the last override is not what stays. -/
theorem size_narrowed :
    sized.IsPlain ∧ ∃ t₁ t₂,
      overrideAll .basic .builtins sized [("size", "True"), ("size", "3")] = (t₁, none) ∧
      overrideAll .basic .builtins sized [("size", "3")] = (t₂, none) ∧
      t₁.get? "size" = some (bool true) ∧ t₂.get? "size" = some (int 3) :=
  ⟨sized_isPlain, .ofList [("size", bool true)], .ofList [("size", int 3)], rfl, rfl, rfl, rfl⟩

end Settings

end FlowDiagram
