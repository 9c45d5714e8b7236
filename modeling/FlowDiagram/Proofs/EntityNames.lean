import FlowDiagram.Entity.Name
import Mathlib.Data.List.Basic

/-! # Which entity a resource refers to

A resource refers to an entity of the same normalized name: to the one that is named exactly like
it, or else to the first of them.  So it refers to none only if no entity has its normalized name,
names that no entity has refer alike if they are normalized alike, and the order of the entities
matters only where two of them have one normalized name.
-/

namespace FlowDiagram

variable {resource other m : String} {active active' : List String}

/-- The entity that a resource refers to: the one of its own name, else the first one of the same
normalized name. -/
inductive RefersTo (resource : String) (active : List String) : String → Prop where
  | itself : resource ∈ active → RefersTo resource active resource
  | first {before after : List String} {m : String} : resource ∉ active →
      active = before ++ m :: after → normalizeName m = normalizeName resource →
      (∀ name ∈ before, normalizeName name ≠ normalizeName resource) → RefersTo resource active m

theorem matchEntity_of_mem (h : resource ∈ active) :
    matchEntity resource active = some resource := by
  rw [matchEntity, if_pos h]

theorem matchEntity_of_notMem (h : resource ∉ active) :
    matchEntity resource active =
      active.find? fun name => normalizeName name = normalizeName resource := by
  rw [matchEntity, if_neg h]

theorem matchEntity_eq_some_iff_refersTo :
    matchEntity resource active = some m ↔ RefersTo resource active m := by
  by_cases hresource : resource ∈ active
  · rw [matchEntity_of_mem hresource]
    constructor
    · rintro ⟨⟩
      exact .itself hresource
    · intro h
      cases h with
      | itself => rfl
      | first hnot => exact (hnot hresource).elim
  · rw [matchEntity_of_notMem hresource, List.find?_eq_some_iff_append]
    constructor
    · rintro ⟨hname, before, after, hactive, hbefore⟩
      apply RefersTo.first hresource hactive
      · simpa using hname
      · simpa using hbefore
    · intro h
      cases h with
      | itself hmem => exact (hresource hmem).elim
      | first _ hactive hname hbefore =>
        exact ⟨by simpa using hname, _, _, hactive, by simpa using hbefore⟩

theorem mem_of_matchEntity (h : matchEntity resource active = some m) : m ∈ active := by
  cases matchEntity_eq_some_iff_refersTo.1 h with
  | itself hmem => exact hmem
  | first _ hactive => simp [hactive]

theorem normalizeName_of_matchEntity (h : matchEntity resource active = some m) :
    normalizeName m = normalizeName resource := by
  cases matchEntity_eq_some_iff_refersTo.1 h with
  | itself => rfl
  | first _ _ hname => exact hname

theorem matchEntity_eq_none_iff :
    matchEntity resource active = none ↔
      ∀ name ∈ active, normalizeName name ≠ normalizeName resource := by
  by_cases hresource : resource ∈ active
  · rw [matchEntity_of_mem hresource]
    refine iff_of_false nofun ?_
    intro h
    exact h resource hresource rfl
  · rw [matchEntity_of_notMem hresource]
    simp

theorem exists_matchEntity (hm : m ∈ active) (hname : normalizeName m = normalizeName resource) :
    ∃ m', matchEntity resource active = some m' := by
  rw [← Option.ne_none_iff_exists', Ne, matchEntity_eq_none_iff]
  intro h
  exact h m hm hname

/-- Among entities with different normalized names a resource refers to the one that has its own. -/
theorem matchEntity_eq_some_iff
    (hdistinct : ∀ a ∈ active, ∀ b ∈ active, normalizeName a = normalizeName b → a = b) :
    matchEntity resource active = some m ↔
      m ∈ active ∧ normalizeName m = normalizeName resource := by
  constructor
  · intro h
    exact ⟨mem_of_matchEntity h, normalizeName_of_matchEntity h⟩
  · rintro ⟨hm, hname⟩
    obtain ⟨m', hm'⟩ := exists_matchEntity hm hname
    have hsame : normalizeName m' = normalizeName m :=
      (normalizeName_of_matchEntity hm').trans hname.symm
    rw [hm', hdistinct m' (mem_of_matchEntity hm') m hm hsame]

theorem matchEntity_congr (hresource : resource ∉ active) (hother : other ∉ active)
    (hname : normalizeName other = normalizeName resource) :
    matchEntity other active = matchEntity resource active := by
  rw [matchEntity_of_notMem hother, matchEntity_of_notMem hresource, hname]

/-- The order of entities with different normalized names does not matter. -/
theorem matchEntity_perm (hperm : active'.Perm active)
    (hdistinct : ∀ a ∈ active, ∀ b ∈ active, normalizeName a = normalizeName b → a = b) :
    matchEntity resource active' = matchEntity resource active := by
  have hdistinct' : ∀ a ∈ active', ∀ b ∈ active', normalizeName a = normalizeName b → a = b := by
    intro a ha b hb
    exact hdistinct a (hperm.subset ha) b (hperm.subset hb)
  -- Either order has at most one entity of the normalized name.
  ext m
  rw [matchEntity_eq_some_iff hdistinct, matchEntity_eq_some_iff hdistinct', hperm.mem_iff]

/-- A resource refers to an entity exactly if one has its normalized name: to the one of its own
name, else to the first, and that one refers to itself.  Names that no entity has refer alike if they
are normalized alike, and the order of the entities counts only if two have one normalized name. -/
theorem matching_respects_normalization (resource : String) (active : List String) :
    (matchEntity resource active = none ↔
        ∀ name ∈ active, normalizeName name ≠ normalizeName resource) ∧
      (∀ m, matchEntity resource active = some m ↔ RefersTo resource active m) ∧
      (∀ m, RefersTo resource active m →
        m ∈ active ∧ normalizeName m = normalizeName resource ∧ matchEntity m active = some m) ∧
      (∀ other, resource ∉ active → other ∉ active →
        normalizeName other = normalizeName resource →
        matchEntity other active = matchEntity resource active) ∧
      ∀ active', active'.Perm active →
        (∀ a ∈ active, ∀ b ∈ active, normalizeName a = normalizeName b → a = b) →
        matchEntity resource active' = matchEntity resource active := by
  refine ⟨matchEntity_eq_none_iff, fun m => matchEntity_eq_some_iff_refersTo, ?_, ?_, ?_⟩
  · intro m hrefers
    have h := matchEntity_eq_some_iff_refersTo.2 hrefers
    have hmem := mem_of_matchEntity h
    exact ⟨hmem, normalizeName_of_matchEntity h, matchEntity_of_mem hmem⟩
  · intro other hresource hother hname
    exact matchEntity_congr hresource hother hname
  · intro active' hperm hdistinct
    exact matchEntity_perm hperm hdistinct

/-- Blanks and parentheses anywhere in a name, and an entity whose name is nothing else. -/
theorem blanks_and_parentheses_ignored :
    let active := ["Clerk", "RSBA", "( )"]
    matchEntity "RS (BA)" active = some "RSBA" ∧ matchEntity "RSBA" active = some "RSBA" ∧
      matchEntity ")RS BA " active = some "RSBA" ∧
      matchEntity "RS (BA)" ["( )", "RSBA", "Clerk"] = some "RSBA" ∧
      matchEntity "" active = some "( )" := by
  intro active
  have hmatch : matchEntity "RS (BA)" active = some "RSBA" := by decide +kernel
  obtain ⟨-, hrefers, hself, hother, horder⟩ := matching_respects_normalization "RS (BA)" active
  refine ⟨hmatch, ?_, ?_, ?_, by decide +kernel⟩
  · exact (hself "RSBA" ((hrefers "RSBA").1 hmatch)).2.2
  · exact (hother ")RS BA " (by decide) (by decide) (by decide +kernel)).trans hmatch
  · exact (horder _ (by decide) (by decide +kernel)).trans hmatch

end FlowDiagram
