import FlowDiagram.Proofs.OverrideTypes

/-! # How overrides fail

Turning a value into a type mostly fails because the value is of no use, which is reported as an error
of the settings.  Where all values are known through and through it fails otherwise if the result is too
great only: a whole number is wanted of an infinity, a double of a whole number past all doubles, or the
items of a range that has too many.  Where a type or a value is of another kind, it is left to the
evaluator how it fails.  So a run of overrides ends well or with an error of the settings, unless it
comes to an override that fails in one of these ways.
-/

namespace FlowDiagram

namespace Value

variable {v w : Value} {f : OperationFault} {room : Nat}

/-- A range has more items than can be counted, or more than there is room for in a list. -/
inductive TooLong (room : Nat) : Value → OperationFault → Prop where
  | pastCounts {a b c : Int} :
      greatestCount < rangeLength a b c → TooLong room (range a b c) (.overflow .pastCounts)
  | noRoom {a b c : Int} : rangeLength a b c ≤ greatestCount →
      room < rangeLength a b c → TooLong room (range a b c) (.overflow .noRoom)

/-- Of some items the first that is no entry of a mapping is a range that is too long. -/
def EntryTooLong (room : Nat) (xs : List Value) (f : OperationFault) : Prop :=
  ∃ before w after, xs = before ++ w :: after ∧
    (∀ e ∈ before, ∃ entry, e.toEntry room = .ok entry) ∧ w.TooLong room f

/-- A value is too great for a type. -/
inductive Overflows (room : Nat) : PlainType → Value → OperationFault → Prop where
  | infinity {x : Float} : Decimal.Binary.ofFloat? x = none → (x == x) = true →
      Overflows room .int (float x) (.overflow .infinite)
  | pastDoubles {v : Value} {i : Int} : v.int? = some i →
      (Decimal.floatOfInt i).isFinite = false → Overflows room .float v (.overflow .pastDoubles)
  | listed {v : Value} {f : OperationFault} : v.TooLong room f → Overflows room .list v f
  | tupled {v : Value} {f : OperationFault} : v.TooLong room f → Overflows room .tuple v f
  | listEntry {xs : List Value} {f : OperationFault} :
      EntryTooLong room xs f → Overflows room .mapping (list xs) f
  | tupleEntry {xs : List Value} {f : OperationFault} :
      EntryTooLong room xs f → Overflows room .mapping (tuple xs) f

theorem isMisuse_of_tooLong (h : v.TooLong room f) : f.isMisuse = false := by
  cases h <;> rfl

/-- Whole numbers, and the truth values among them, become doubles unless they are past all doubles. -/
theorem toFloat_of_int? {i : Int} (h : v.int? = some i) :
    v.toFloat = (Number.int i).toFloat.map float := by
  cases v <;> cases h <;> rfl

section Faults

/-! Of the faults only those count that do not come from a value of no use. -/

variable (hf : f.isMisuse = false)

include hf

theorem listed_eq_error_iff : v.listed room = .error f ↔ v.TooLong room f := by
  cases v with
  | range a b c =>
    rw [listed]
    constructor
    · intro h
      split at h
      · next hcount =>
        cases h
        exact .pastCounts hcount
      · next hcount =>
        split at h
        · next hroom =>
          cases h
          exact .noRoom (Nat.le_of_not_lt hcount) hroom
        · cases h
    · intro h
      cases h with
      | pastCounts hcount => rw [if_pos hcount]
      | noRoom hcount hroom => rw [if_neg (Nat.not_lt.2 hcount), if_pos hroom]
  | text | list | tuple | mapping => exact iff_of_false nofun nofun
  | _ =>
    apply iff_of_false _ nofun
    intro h
    cases h
    cases hf

theorem toEntry_eq_error_iff : v.toEntry room = .error f ↔ v.TooLong room f := by
  rw [← listed_eq_error_iff hf, toEntry, bind_eq_error]
  constructor
  · rintro (h | ⟨items, -, h⟩)
    · exact h
    · split at h
      · split at h
        · cases h
        · cases h
          cases hf
      · cases h
        cases hf
  · exact .inl

/-- Reading a number from a text fails because the text is of no use. -/
theorem elim_ne_error {α : Type} (read : Option α) (g : α → Value) :
    (read.elim (.error .badValue) fun a => .ok (g a) : Except OperationFault Value) ≠ .error f := by
  cases read with
  | none =>
    intro h
    cases h
    cases hf
  | some a => exact nofun

theorem toInt_eq_error_iff : v.toInt = .error f ↔ v.Overflows room .int f := by
  cases v with
  | float x =>
    have htruncated : (float x).toInt = (truncated x).map int := rfl
    rw [htruncated, map_eq_error, truncated]
    constructor
    · intro h
      split at h
      · cases h
      · next hx =>
        by_cases hnumber : (x == x) = true
        · rw [if_pos hnumber] at h
          cases h
          exact .infinity hx hnumber
        · rw [if_neg hnumber] at h
          cases h
          cases hf
    · rintro ⟨hx, hnumber⟩
      rw [hx, if_pos hnumber]
  | text s => exact iff_of_false (elim_ne_error hf _ _) nofun
  | bool | int => exact iff_of_false nofun nofun
  | _ =>
    apply iff_of_false _ nofun
    intro h
    cases h
    cases hf

theorem toFloat_eq_error_iff : v.toFloat = .error f ↔ v.Overflows room .float f := by
  cases hint : v.int? with
  | some i =>
    rw [toFloat_of_int? hint, map_eq_error, Number.toFloat]
    constructor
    · intro h
      by_cases hfinite : (Decimal.floatOfInt i).isFinite = true
      · rw [if_pos hfinite] at h
        cases h
      · rw [if_neg hfinite] at h
        cases h
        exact .pastDoubles hint (Bool.eq_false_iff.2 hfinite)
    · intro h
      cases h with
      | pastDoubles hint' hfinite =>
        cases hint.symm.trans hint'
        rw [if_neg (Bool.eq_false_iff.1 hfinite)]
  | none =>
    apply iff_of_false
    · intro h
      cases v with
      | text s => exact elim_ne_error hf _ _ h
      | int i => cases hint
      | bool b => cases hint
      | float x => cases h
      | _ =>
        cases h
        cases hf
    · intro h
      cases h with
      | pastDoubles hint' => cases hint.symm.trans hint'

theorem entries_eq_error_iff (xs : List Value) {g : List (Value × Value) → Value} :
    (do return g (← xs.mapM (toEntry room)) : Except OperationFault Value) = .error f ↔
      EntryTooLong room xs f := by
  simp only [EntryTooLong, ← toEntry_eq_error_iff hf]
  rw [bind_eq_error, ← mapM_eq_error]
  constructor
  · rintro (h | ⟨_, -, ⟨⟩⟩)
    exact h
  · exact .inl

theorem toMapping_eq_error_iff : v.toMapping room = .error f ↔ v.Overflows room .mapping f := by
  cases v with
  | list xs =>
    apply (entries_eq_error_iff hf xs).trans
    exact ⟨.listEntry, fun | .listEntry h => h⟩
  | tuple xs =>
    apply (entries_eq_error_iff hf xs).trans
    exact ⟨.tupleEntry, fun | .tupleEntry h => h⟩
  | text s =>
    apply iff_of_false _ nofun
    intro h
    obtain ⟨before, w, after, hitems, -, hw⟩ := (entries_eq_error_iff hf _).1 h
    have hmem : w ∈ s.toList.map fun c => text c.toString := by
      rw [hitems]
      simp
    obtain ⟨c, -, rfl⟩ := List.mem_map.1 hmem
    cases hw
  | mapping es => exact iff_of_false nofun nofun
  | range a b c =>
    apply iff_of_false _ nofun
    intro h
    rw [toMapping] at h
    split at h
    · cases h
    · cases h
      cases hf
  | _ =>
    apply iff_of_false _ nofun
    intro h
    cases h
    cases hf

/-- One of the seven types makes nothing of a value that is too great for it. -/
theorem made_eq_error_iff {p : PlainType} :
    Settings.made room v p = .error f ↔ v.Overflows room p f := by
  cases p with
  | bool => exact iff_of_false nofun nofun
  | text => exact iff_of_false nofun nofun
  | int => exact toInt_eq_error_iff hf
  | float => exact toFloat_eq_error_iff hf
  | mapping => exact toMapping_eq_error_iff hf
  | list =>
    apply (map_eq_error.trans (listed_eq_error_iff hf)).trans
    exact ⟨.listed, fun | .listed h => h⟩
  | tuple =>
    apply (map_eq_error.trans (listed_eq_error_iff hf)).trans
    exact ⟨.tupled, fun | .tupled h => h⟩

end Faults

theorem not_overflows_text {p : PlainType} {s : String} : ¬(text s).Overflows room p f := by
  intro h
  cases h with
  | pastDoubles hint => cases hint
  | listed htoo => cases htoo
  | tupled htoo => cases htoo

theorem isMisuse_of_overflows {p : PlainType} (h : v.Overflows room p f) : f.isMisuse = false := by
  cases h with
  | infinity => rfl
  | pastDoubles => rfl
  | listed h => exact isMisuse_of_tooLong h
  | tupled h => exact isMisuse_of_tooLong h
  | listEntry h =>
    obtain ⟨_, w, _, -, -, hw⟩ := h
    exact isMisuse_of_tooLong hw
  | tupleEntry h =>
    obtain ⟨_, w, _, -, -, hw⟩ := h
    exact isMisuse_of_tooLong hw

/-- A value that is too great for a type is not of that type. -/
theorem not_isOf_of_overflows {p : PlainType} (h : v.Overflows room p f) :
    v.isOf (.plain p) = false := by
  cases h with
  | infinity => rfl
  | pastDoubles hint => cases v <;> cases hint <;> rfl
  | listed htoo => cases htoo <;> rfl
  | tupled htoo => cases htoo <;> rfl
  | listEntry => rfl
  | tupleEntry => rfl

end Value

/-- A value cannot be turned into a type, and that not because it is of no use. -/
inductive Evaluator.Fails (ev : Evaluator) : ValueType → Value → OperationFault → Prop where
  | overflow {p : PlainType} {v : Value} {f : OperationFault} : v.isKnown = true →
      v.Overflows ev.room p f → ev.Fails (.plain p) v f
  | construct {type : ValueType} {v : Value} {f : OperationFault} :
      (∀ p, type = .plain p → v.isKnown = false) → v.isOf type = false →
      ev.construct type v = .error f → f.isMisuse = false → ev.Fails type v f

namespace Settings

open Value

variable {ev : Evaluator} {names : Names} {t t' : Settings} {type : ValueType} {current v : Value}
  {short expression : String} {f : OperationFault} {os : List (String × String)}

theorem converted_of_isKnown {p : PlainType} (h : v.isKnown = true) :
    converted ev (.plain p) v = made ev.room v p := by
  simp only [converted, h]

theorem converted_eq_construct (h : ∀ p, type = .plain p → v.isKnown = false) :
    converted ev type v = ev.construct type v := by
  cases type with
  | plain p => simp only [converted, h p rfl]
  | other t => rfl

theorem coerce_eq_error_iff :
    coerce ev type v = .error f ∧ f.isMisuse = false ↔ ev.Fails type v f := by
  unfold coerce
  constructor
  · rintro ⟨h, hf⟩
    split at h
    · cases h
    · next hof =>
      by_cases hknown : ∃ p, type = .plain p ∧ v.isKnown = true
      · obtain ⟨p, rfl, hknown⟩ := hknown
        rw [converted_of_isKnown hknown] at h
        exact .overflow hknown ((made_eq_error_iff hf).1 h)
      · have hleft : ∀ p, type = .plain p → v.isKnown = false := by
          intro p hp
          exact Bool.eq_false_iff.2 fun h => hknown ⟨p, hp, h⟩
        rw [converted_eq_construct hleft] at h
        exact .construct hleft (Bool.eq_false_iff.2 hof) h hf
  · intro h
    cases h with
    | overflow hknown hover =>
      have hf := isMisuse_of_overflows hover
      rw [not_isOf_of_overflows hover, if_neg Bool.false_ne_true, converted_of_isKnown hknown]
      exact ⟨(made_eq_error_iff hf).2 hover, hf⟩
    | construct hleft hof h hf =>
      rw [hof, if_neg Bool.false_ne_true, converted_eq_construct hleft]
      exact ⟨h, hf⟩

theorem coerced_eq_fault_iff :
    coerced ev names type expression v = .error (.fault f) ↔
      ev.Fails type (meant names type expression v) f := by
  rw [← coerce_eq_error_iff, coerced]
  rcases coerce ev type (meant names type expression v) with f' | w
  · dsimp only
    by_cases hmisuse : f'.isMisuse = true
    · rw [if_pos hmisuse]
      apply iff_of_false nofun
      rintro ⟨⟨⟩, hf⟩
      cases hmisuse.symm.trans hf
    · rw [if_neg hmisuse]
      constructor
      · rintro ⟨⟩
        exact ⟨rfl, Bool.eq_false_iff.2 hmisuse⟩
      · rintro ⟨⟨⟩, -⟩
        rfl
  · exact iff_of_false nofun nofun

theorem newValue_eq_fault_iff :
    newValue ev names current expression = .error (.fault f) ↔
      ¬(expression = "None" ∧ mayBeUnset current = true) ∧
        ∃ v, evaluated ev names (some (wantedType current)) expression = .ok v ∧
          ev.Fails (wantedType current) (meant names (wantedType current) expression v) f := by
  have hevaluate : evaluate ev names (some (wantedType current)) expression = .error (.fault f) ↔
      ∃ v, evaluated ev names (some (wantedType current)) expression = .ok v ∧
        ev.Fails (wantedType current) (meant names (wantedType current) expression v) f := by
    simp only [evaluate, bind_eq_error, mapError_eq_error, mapError_eq_ok, coerced_eq_fault_iff,
      reduceCtorEq, and_false, exists_false, false_or]
  rw [← hevaluate, newValue]
  by_cases hunset : expression = "None" ∧ mayBeUnset current = true
  · rw [if_pos (by simpa using hunset)]
    constructor
    · intro h
      cases h
    · intro h
      exact absurd hunset h.1
  · rw [if_neg (by simpa using hunset), and_iff_right hunset]

theorem meant_of_none (h : names expression = none) : meant names type expression v = v := by
  rw [meant, h]
  rfl

/-- What is meant by a name is too great for no type. -/
theorem overflows_meant_iff {p : PlainType} {room : Nat} :
    (meant names (.plain p) expression v).Overflows room p f ↔
      names expression = none ∧ v.Overflows room p f := by
  by_cases hname : ((names expression).isSome && !v.isOf (.plain p)) = true
  · rw [meant, if_pos hname]
    apply iff_of_false not_overflows_text
    rintro ⟨hnone, -⟩
    simp [hnone] at hname
  · rw [meant, if_neg hname]
    constructor
    · intro h
      simpa [not_isOf_of_overflows h] using And.intro hname h
    · exact And.right

theorem value?_of_evaluated {p : PlainType} {room : Nat}
    (h : evaluated ev names (some type) expression = .ok v) (hover : v.Overflows room p f) :
    ev.value? names expression = some v := by
  unfold evaluated at h
  split at h
  · next hvalue =>
    cases h
    exact hvalue
  · split at h
    · cases h
      exact absurd hover not_overflows_text
    · cases h

/-- An override fails, and that not because what it gives is of no use: the value of its expression is
too great for the type that is wanted, or the evaluator fails where a type or a value is of another
kind. -/
inductive FailsAt (ev : Evaluator) (names : Names) (t : Settings) :
    String × String → OperationFault → Prop where
  | overflow {short expression k : String} {current v : Value} {p : PlainType} {f : OperationFault} :
      t.lookup short = .ok (k, current) → wantedType current = .plain p →
      names expression = none → ev.value? names expression = some v → v.isKnown = true →
      v.Overflows ev.room p f → FailsAt ev names t (short, expression) f
  | construct {short expression k : String} {current v w : Value} {f : OperationFault} :
      t.lookup short = .ok (k, current) → ¬(expression = "None" ∧ mayBeUnset current = true) →
      evaluated ev names (some (wantedType current)) expression = .ok v →
      meant names (wantedType current) expression v = w →
      (∀ p, wantedType current = .plain p → w.isKnown = false) →
      w.isOf (wantedType current) = false → ev.construct (wantedType current) w = .error f →
      f.isMisuse = false → FailsAt ev names t (short, expression) f

theorem failsAt_of_fails {k : String} (hfound : t.lookup short = .ok (k, current))
    (hunset : ¬(expression = "None" ∧ mayBeUnset current = true))
    (hv : evaluated ev names (some (wantedType current)) expression = .ok v)
    (h : ev.Fails (wantedType current) (meant names (wantedType current) expression v) f) :
    FailsAt ev names t (short, expression) f := by
  generalize hwanted : wantedType current = type at h
  generalize hw : meant names type expression v = w at h
  cases h with
  | construct hleft hof h hf =>
    subst hwanted
    exact .construct hfound hunset hv hw hleft hof h hf
  | overflow hknown hover =>
    rw [← hw, overflows_meant_iff] at hover
    obtain ⟨hname, hover⟩ := hover
    rw [← hw, meant_of_none hname] at hknown
    exact .overflow hfound hwanted hname (value?_of_evaluated hv hover) hknown hover

theorem override_eq_fault_iff :
    override ev names t short expression = .error (.fault f) ↔
      FailsAt ev names t (short, expression) f := by
  rw [override, bind_eq_error]
  constructor
  · rintro (h | ⟨⟨k, current⟩, hfound, h⟩)
    · obtain ⟨_, -, ⟨⟩⟩ := mapError_eq_error.1 h
    · rcases bind_eq_error.1 h with hnew | ⟨_, -, ⟨⟩⟩
      obtain ⟨hunset, v, hv, h⟩ := newValue_eq_fault_iff.1 hnew
      exact failsAt_of_fails (mapError_eq_ok.1 hfound) hunset hv h
  · intro h
    have hfound : ∃ k current, t.lookup short = .ok (k, current) ∧
        newValue ev names current expression = .error (.fault f) := by
      cases h with
      | @construct _ _ k current v w _ hfound hunset hv hw hleft hof h hf =>
        subst hw
        exact ⟨k, current, hfound,
          newValue_eq_fault_iff.2 ⟨hunset, v, hv, .construct hleft hof h hf⟩⟩
      | @overflow _ _ k current v p _ hfound hwanted hname hvalue hknown hover =>
        refine ⟨k, current, hfound, newValue_eq_fault_iff.2 ⟨?_, v, ?_, ?_⟩⟩
        · -- nothing is too great for a text, which alone may be unset
          rintro ⟨-, hunset⟩
          rw [mayBeUnset, hwanted] at hunset
          rcases ValueType.isKindOf_plain.1 hunset with rfl | ⟨-, ⟨⟩⟩
          cases hover
        · rw [evaluated, hvalue]
        · rw [hwanted, meant_of_none hname]
          exact .overflow hknown hover
    obtain ⟨k, current, hfound, hnew⟩ := hfound
    exact .inr ⟨(k, current), mapError_eq_ok.2 hfound, bind_eq_error.2 (.inl hnew)⟩

/-- A run of overrides ends well or with an error of the settings, unless it comes to an override that
gives a setting a value too great for its type, such as an infinity for a whole number, or to one that
the evaluator fails at for another reason than that a value is of no use. -/
theorem faults_reported_iff (ev : Evaluator) (names : Names) (t : Settings)
    (os : List (String × String)) :
    ((overrideAll ev names t os).2 = none ∨
        ∃ e, (overrideAll ev names t os).2 = some (.settings e)) ↔
      ¬∃ before override after t' f, os = before ++ override :: after ∧
        overrideAll ev names t before = (t', none) ∧ FailsAt ev names t' override f := by
  have hfault : ∀ t' f, overrideAll ev names t os = (t', some (.fault f)) ↔
      ∃ before override after, os = before ++ override :: after ∧
        overrideAll ev names t before = (t', none) ∧ FailsAt ev names t' override f := by
    intro t' f
    simp only [overrideAll_eq_some_iff, override_eq_fault_iff]
  rcases hrun : overrideAll ev names t os with ⟨t', _ | ⟨e | f⟩⟩
  · refine iff_of_true (.inl rfl) ?_
    rintro ⟨before, override, after, t₁, f, h⟩
    cases hrun.symm.trans ((hfault t₁ f).2 ⟨before, override, after, h⟩)
  · refine iff_of_true (.inr ⟨e, rfl⟩) ?_
    rintro ⟨before, override, after, t₁, f, h⟩
    cases hrun.symm.trans ((hfault t₁ f).2 ⟨before, override, after, h⟩)
  · apply iff_of_false
    · simp
    · rw [not_not]
      obtain ⟨before, override, after, h⟩ := (hfault t' f).1 hrun
      exact ⟨before, override, after, t', f, h⟩

/-- A number that overflows to an infinity is turned into no whole number, and not reported as an error
of the settings. -/
theorem size_overflows :
    sized.IsPlain ∧
      (overrideAll .basic .builtins sized [("size", "1e999")]).2 =
        some (.fault (.overflow .infinite)) :=
  ⟨sized_isPlain, by decide +kernel⟩

end Settings

end FlowDiagram
