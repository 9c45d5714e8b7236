import FlowDiagram.Proofs.OrderedMap
import FlowDiagram.Proofs.Results
import FlowDiagram.Settings.Lookup
import Mathlib.Data.List.Nodup
import Mathlib.Data.List.Perm.Basic

/-! # What a key in short means

A text that is no key means the only key whose last part it is, or else the only one of the other
keys that end with it.  Whether there is such a key, which one, and with what error there is none,
depends on the keys that end with the text alone, and not on their order.

The rule for the other keys is also tried where several keys have the text as their last part.  Such
a text is refused unless it is the end of exactly one other key, which it then means.  Among the
settings that a conversion looks at there is no such text.
-/

namespace FlowDiagram.Settings

open OrderedMap

variable {t t' : Settings} {short k : String} {v : Value} {e : SettingsError}

section Endings

theorem endsWith_iff : endsWith k short = true ↔ short.toList <:+ k.toList := by
  rw [endsWith, List.isSuffixOf_iff_suffix]

theorem endsWith_self (short : String) : endsWith short short = true :=
  endsWith_iff.2 (List.suffix_refl _)

/-- The last part of a key has no point and follows one, unless it is the key. -/
theorem lastPart_eq_iff :
    lastPart k = short ↔
      '.' ∉ short.toList ∧ (k = short ∨ ∃ front, k = front ++ "." ++ short) := by
  have htext : ∀ front, k = front ++ "." ++ short ↔
      k.toList = front.toList ++ '.' :: short.toList := by
    intro front
    simp [← String.toList_inj, String.toList_append]
  simp only [lastPart, htext]
  cases hsplit : Text.splitLast '.' k.toList with
  | none =>
    have hfree := Text.splitLast_eq_none_iff.1 hsplit
    constructor
    · rintro rfl
      exact ⟨hfree, .inl rfl⟩
    · rintro ⟨-, rfl | ⟨front, hk⟩⟩
      · rfl
      · simp [hk] at hfree
  | some parts =>
    obtain ⟨front, last⟩ := parts
    obtain ⟨hk, hfree⟩ := Text.splitLast_eq_some_iff.1 hsplit
    constructor
    · rintro rfl
      exact ⟨by simpa using hfree, .inr ⟨String.ofList front, by simpa using hk⟩⟩
    · rintro ⟨hshort, rfl | ⟨front', hk'⟩⟩
      · simp [hk] at hshort
      · have hparts := Text.splitLast_eq_some_iff.2 ⟨hk', hshort⟩
        rw [hsplit] at hparts
        cases hparts
        exact String.ofList_toList

theorem endsWith_of_lastPart (h : lastPart k = short) : endsWith k short = true := by
  rcases (lastPart_eq_iff.1 h).2 with rfl | ⟨front, rfl⟩
  · exact endsWith_self k
  · rw [endsWith_iff, String.toList_append]
    exact List.suffix_append _ _

end Endings

section Meaning

/-- The key is the only one of the table with a property. -/
def Only (t : Settings) (p : String → Prop) (k : String) : Prop :=
  k ∈ t.keys ∧ p k ∧ ∀ k' ∈ t.keys, p k' → k' = k

/-- The text is the last part of the key. -/
def IsLastPart (short k : String) : Prop := lastPart k = short

/-- The key ends with the text, which is not its last part. -/
def EndsWithin (short k : String) : Prop := lastPart k ≠ short ∧ endsWith k short = true

instance (short k : String) : Decidable (EndsWithin short k) := inferInstanceAs (Decidable (_ ∧ _))

/-- The key that a text means in short: itself, else the only key whose last part it is, else the
only other key that ends with it. -/
inductive Means (t : Settings) (short : String) : String → Prop where
  | whole : short ∈ t.keys → Means t short short
  | byName {k : String} : short ∉ t.keys → t.Only (IsLastPart short) k → Means t short k
  | byEnd {k : String} : short ∉ t.keys → (¬∃ k', t.Only (IsLastPart short) k') →
      t.Only (EndsWithin short) k → Means t short k

/-- A text means a key of the table that ends with it. -/
theorem Means.mem_keys (h : t.Means short k) : k ∈ t.keys := by
  cases h with
  | whole hmem => exact hmem
  | byName _ hk => exact hk.1
  | byEnd _ _ hk => exact hk.1

theorem Means.endsWith (h : t.Means short k) : endsWith k short = true := by
  cases h with
  | whole => exact endsWith_self short
  | byName _ hk => exact endsWith_of_lastPart hk.2.1
  | byEnd _ _ hk => exact hk.2.1.2

theorem filter_keys_eq_singleton_iff {p : String → Bool} :
    t.keys.filter p = [k] ↔ t.Only (fun k => p k = true) k := by
  constructor
  · intro h
    have hmem : ∀ k', k' ∈ t.keys ∧ p k' = true ↔ k' = k := by
      intro k'
      rw [← List.mem_filter, h, List.mem_singleton]
    obtain ⟨hk, hp⟩ := (hmem k).2 rfl
    exact ⟨hk, hp, fun k' hk' hp' => (hmem k').1 ⟨hk', hp'⟩⟩
  · rintro ⟨hk, hp, hunique⟩
    apply List.perm_singleton.1
    apply (List.perm_ext_iff_of_nodup (t.keys_nodup.filter p) (List.nodup_singleton k)).2
    intro k'
    rw [List.mem_filter, List.mem_singleton]
    constructor
    · rintro ⟨hk', hp'⟩
      exact hunique k' hk' hp'
    · rintro rfl
      exact ⟨hk, hp⟩

theorem named_eq_singleton_iff : t.named short = [k] ↔ t.Only (IsLastPart short) k := by
  rw [named, filter_keys_eq_singleton_iff]
  simp only [Only, IsLastPart, decide_eq_true_eq]

theorem ending_eq_singleton_iff : t.ending short = [k] ↔ t.Only (EndsWithin short) k := by
  rw [ending, filter_keys_eq_singleton_iff]
  simp only [Only, EndsWithin, Bool.and_eq_true, decide_eq_true_eq]

/-- The keys that end with a text, as they are listed when it is refused. -/
def candidates (t : Settings) (short : String) : List String := t.named short ++ t.ending short

/-- The keys that are listed are those that end with the text. -/
theorem candidates_perm (t : Settings) (short : String) :
    (t.candidates short).Perm (t.keys.filter (endsWith · short)) := by
  -- A key ends with its last part, so the two lists divide the keys that end with the text.
  have hsplit := List.filter_append_perm (fun k => decide (lastPart k = short))
    (t.keys.filter (endsWith · short))
  have hnamed : (t.keys.filter (endsWith · short)).filter (fun k => decide (lastPart k = short)) =
      t.named short := by
    rw [List.filter_filter, named]
    apply List.filter_congr
    intro k _
    by_cases hname : lastPart k = short
    · simp [hname, endsWith_of_lastPart hname]
    · simp [hname]
  have hending : (t.keys.filter (endsWith · short)).filter (fun k => !decide (lastPart k = short)) =
      t.ending short := by
    rw [List.filter_filter, ending]
    simp only [ne_eq, decide_not]
  rwa [hnamed, hending] at hsplit

theorem candidates_eq_nil_iff :
    t.candidates short = [] ↔ ∀ k ∈ t.keys, endsWith k short = false := by
  rw [← List.perm_nil, (candidates_perm t short).congr_left, List.perm_nil, List.filter_eq_nil_iff]
  simp

/-- The error for a text that means no key. -/
def refusal (short : String) (candidates : List String) : SettingsError :=
  if candidates = [] then .invalidKey short else .ambiguousKey short candidates

theorem means_of_resolve (h : t.resolve short = .ok k) : t.Means short k := by
  unfold resolve at h
  split at h
  · next hget =>
    cases h
    exact .whole (isSome_get?_iff.1 hget)
  · next hget =>
    rw [isSome_get?_iff] at hget
    split at h
    · next hnamed =>
      cases h
      exact .byName hget (named_eq_singleton_iff.1 hnamed)
    · next hending hmany =>
      cases h
      refine .byEnd hget ?_ (ending_eq_singleton_iff.1 hending)
      rintro ⟨k', hk'⟩
      exact hmany k' (named_eq_singleton_iff.2 hk')
    · cases h
    · cases h

theorem resolve_of_means (h : t.Means short k) : t.resolve short = .ok k := by
  unfold resolve
  cases h with
  | whole hmem => rw [if_pos (isSome_get?_iff.2 hmem)]
  | byName hnot hk => rw [if_neg (mt isSome_get?_iff.1 hnot), named_eq_singleton_iff.2 hk]
  | byEnd hnot hmany hk =>
    rw [if_neg (mt isSome_get?_iff.1 hnot), ending_eq_singleton_iff.2 hk]
    -- One other key ends with the text, so only the rows for a single key are left.
    split
    · next hnamed => exact (hmany ⟨_, named_eq_singleton_iff.1 hnamed⟩).elim
    · next hsingle _ =>
      cases hsingle
      rfl
    · next hempty => cases hempty
    · next hother _ => exact (hother k rfl).elim

theorem resolve_eq_ok_iff : t.resolve short = .ok k ↔ t.Means short k :=
  ⟨means_of_resolve, resolve_of_means⟩

theorem resolve_eq_error (h : t.resolve short = .error e) :
    e = refusal short (t.candidates short) := by
  unfold resolve at h
  split at h
  · cases h
  · split at h
    · cases h
    · cases h
    · next hnamed hending =>
      cases h
      simp [refusal, candidates, hnamed, hending]
    · next hnone =>
      cases h
      rw [refusal, if_neg]
      · rfl
      · intro hempty
        rw [candidates, List.append_eq_nil_iff] at hempty
        exact hnone hempty.1 hempty.2

end Meaning

section Lookup

/-- Looking up a text finds the key that it means, with its value. -/
theorem lookup_eq_ok_iff : t.lookup short = .ok (k, v) ↔ t.Means short k ∧ t.get? k = some v := by
  simp only [lookup, bind_eq_ok, resolve_eq_ok_iff]
  constructor
  · rintro ⟨k', hk', hvalue⟩
    cases hvalue
    obtain ⟨v, hv⟩ := exists_get?_of_mem hk'.mem_keys
    exact ⟨hk', by rw [hv, Option.getD_some]⟩
  · rintro ⟨hk, hv⟩
    exact ⟨k, hk, by rw [hv]; rfl⟩

theorem lookup_eq_error (h : t.lookup short = .error e) :
    e = refusal short (t.candidates short) := by
  rw [lookup, bind_eq_error] at h
  rcases h with h | ⟨k, -, hvalue⟩
  · exact resolve_eq_error h
  · cases hvalue

end Lookup

section SharedNames

/-- The text is no key, and is the last part of several. -/
structure SharedName (t : Settings) (short : String) : Prop where
  notKey : short ∉ t.keys
  shared : ∃ k ∈ t.keys, ∃ k' ∈ t.keys, k ≠ k' ∧ lastPart k = short ∧ lastPart k' = short

instance (t : Settings) (short : String) : Decidable (t.SharedName short) :=
  decidable_of_iff (short ∉ t.keys ∧
      ∃ k ∈ t.keys, ∃ k' ∈ t.keys, k ≠ k' ∧ lastPart k = short ∧ lastPart k' = short)
    ⟨fun h => ⟨h.1, h.2⟩, fun h => ⟨h.notKey, h.shared⟩⟩

theorem SharedName.not_only (h : t.SharedName short) : ¬∃ k, t.Only (IsLastPart short) k := by
  rintro ⟨k, -, -, hunique⟩
  obtain ⟨k₁, hk₁, k₂, hk₂, hne, hname₁, hname₂⟩ := h.shared
  exact hne ((hunique k₁ hk₁ hname₁).trans (hunique k₂ hk₂ hname₂).symm)

/-- The last part of several keys means the only other key that it is the end of. -/
theorem SharedName.means_iff (h : t.SharedName short) :
    t.Means short k ↔ t.Only (EndsWithin short) k := by
  constructor
  · intro hmeans
    cases hmeans with
    | whole hmem => exact (h.notKey hmem).elim
    | byName _ hk => exact (h.not_only ⟨k, hk⟩).elim
    | byEnd _ _ hk => exact hk
  · exact .byEnd h.notKey h.not_only

theorem SharedName.candidates_ne_nil (h : t.SharedName short) : t.candidates short ≠ [] := by
  obtain ⟨k, hk, -, -, -, hname, -⟩ := h.shared
  rw [Ne, candidates_eq_nil_iff]
  intro hnone
  exact Bool.false_ne_true ((hnone k hk).symm.trans (endsWith_of_lastPart hname))

theorem SharedName.lookup_eq_error (h : t.SharedName short) (he : t.lookup short = .error e) :
    e = .ambiguousKey short (t.candidates short) := by
  rw [Settings.lookup_eq_error he, refusal, if_neg h.candidates_ne_nil]

/-- None of the settings that a conversion looks at ends with the last part of two others. -/
theorem default_endings_apart :
    ∀ k ∈ Settings.default.keys, ∀ k' ∈ Settings.default.keys, k ≠ k' → lastPart k = lastPart k' →
      ∀ other ∈ Settings.default.keys, ¬EndsWithin (lastPart k) other := by
  decide +kernel

/-- Among the settings that a conversion looks at no key is guessed, whatever their values. -/
theorem SharedName.refused_of_default_keys (h : t.SharedName short)
    (hkeys : t.keys = Settings.default.keys) : ∃ e, t.lookup short = .error e := by
  obtain ⟨k, hk, k', hk', hne, rfl, hname'⟩ := h.shared
  rw [hkeys] at hk hk'
  cases hlookup : t.lookup (lastPart k) with
  | error e => exact ⟨e, rfl⟩
  | ok found =>
    obtain ⟨hmem, hend, -⟩ := h.means_iff.1 (lookup_eq_ok_iff.1 hlookup).1
    rw [hkeys] at hmem
    exact (default_endings_apart k hk k' hk' hne hname'.symm _ hmem hend).elim

/-- The last part of several keys is refused as ambiguous unless it is the end of exactly one other
key.  In that case alone it is found, and what is found is that key. -/
theorem shared_name_refused_iff (h : t.SharedName short) :
    ((∃ e, t.lookup short = .error e) ↔ ¬∃ k, t.Only (EndsWithin short) k) ∧
      (∀ e, t.lookup short = .error e → e = .ambiguousKey short (t.candidates short)) ∧
      ∀ k v, t.lookup short = .ok (k, v) ↔ t.Only (EndsWithin short) k ∧ t.get? k = some v := by
  have hfound : ∀ k v, t.lookup short = .ok (k, v) ↔
      t.Only (EndsWithin short) k ∧ t.get? k = some v := by
    intro k v
    rw [lookup_eq_ok_iff, h.means_iff]
  refine ⟨?_, fun e => h.lookup_eq_error, hfound⟩
  constructor
  · rintro ⟨e, he⟩ ⟨k, hk⟩
    obtain ⟨v, hv⟩ := exists_get?_of_mem hk.1
    rw [(hfound k v).2 ⟨hk, hv⟩] at he
    cases he
  · intro hnone
    cases hlookup : t.lookup short with
    | error e => exact ⟨e, rfl⟩
    | ok found => exact (hnone ⟨found.1, ((hfound found.1 found.2).1 hlookup).1⟩).elim

/-- Two keys with one last part, and more. -/
def files (more : List (String × Value)) : Settings :=
  .ofList ([("input.file", .int 1), ("output.file", .int 2)] ++ more)

theorem two_other_keys_refused :
    (files [("profile", .int 3), ("logfile", .int 4)]).SharedName "file" ∧
      ∃ e, (files [("profile", .int 3), ("logfile", .int 4)]).lookup "file" = .error e := by
  have hshared : (files [("profile", .int 3), ("logfile", .int 4)]).SharedName "file" := by
    decide +kernel
  refine ⟨hshared, (shared_name_refused_iff hshared).1.2 ?_⟩
  rintro ⟨k, -, -, hunique⟩
  have hprofile := hunique "profile" (by decide) ⟨by decide +kernel, by decide +kernel⟩
  have hlogfile := hunique "logfile" (by decide) ⟨by decide +kernel, by decide +kernel⟩
  exact absurd (hprofile.trans hlogfile.symm) (by decide)

/-- A single other key is taken although two keys have the text as their last part. -/
theorem one_other_key_guessed :
    (files [("profile", .int 3)]).SharedName "file" ∧
      (files [("profile", .int 3)]).lookup "file" = .ok ("profile", .int 3) :=
  ⟨by decide +kernel, rfl⟩

end SharedNames

section Outcomes

/-- The tables have the same keys that end with a text, with the same values. -/
def SameEndings (t t' : Settings) (short : String) : Prop :=
  ∀ k, endsWith k short = true → t.get? k = t'.get? k

namespace SameEndings

variable {p : String → Prop} (h : SameEndings t t' short)

include h

theorem symm : SameEndings t' t short := fun k hk => (h k hk).symm

theorem mem_keys_iff (hk : endsWith k short = true) : k ∈ t.keys ↔ k ∈ t'.keys := by
  rw [← isSome_get?_iff, h k hk, isSome_get?_iff]

theorem only_iff (hp : ∀ k, p k → endsWith k short = true) : t.Only p k ↔ t'.Only p k := by
  have hkeys : ∀ k, p k → (k ∈ t.keys ↔ k ∈ t'.keys) := fun k hk => h.mem_keys_iff (hp k hk)
  constructor
  · rintro ⟨hk, hpk, hunique⟩
    exact ⟨(hkeys k hpk).1 hk, hpk, fun k' hk' hpk' => hunique k' ((hkeys k' hpk').2 hk') hpk'⟩
  · rintro ⟨hk, hpk, hunique⟩
    exact ⟨(hkeys k hpk).2 hk, hpk, fun k' hk' hpk' => hunique k' ((hkeys k' hpk').1 hk') hpk'⟩

theorem means (hk : t.Means short k) : t'.Means short k := by
  have hself := h.mem_keys_iff (endsWith_self short)
  have hname : ∀ k, t.Only (IsLastPart short) k ↔ t'.Only (IsLastPart short) k :=
    fun k => h.only_iff fun k => endsWith_of_lastPart
  cases hk with
  | whole hmem => exact .whole (hself.1 hmem)
  | byName hnot hk => exact .byName (mt hself.2 hnot) ((hname k).1 hk)
  | byEnd hnot hmany hk =>
    apply Means.byEnd (mt hself.2 hnot)
    · rintro ⟨k', hk'⟩
      exact hmany ⟨k', (hname k').2 hk'⟩
    · exact (h.only_iff fun k hk => hk.2).1 hk

theorem candidates : (t.candidates short).Perm (t'.candidates short) := by
  have hfilter : (t.keys.filter (endsWith · short)).Perm (t'.keys.filter (endsWith · short)) := by
    apply (List.perm_ext_iff_of_nodup (t.keys_nodup.filter _) (t'.keys_nodup.filter _)).2
    intro k
    rw [List.mem_filter, List.mem_filter, and_congr_left_iff]
    exact h.mem_keys_iff
  exact (candidates_perm t short).trans (hfilter.trans (candidates_perm t' short).symm)

end SameEndings

/-- Two lookups find the same key with the same value, or fail with the same error up to the order
in which it lists keys. -/
inductive SameOutcome :
    Except SettingsError (String × Value) → Except SettingsError (String × Value) → Prop where
  | found (k : String) (v : Value) : SameOutcome (.ok (k, v)) (.ok (k, v))
  | invalid (short : String) :
      SameOutcome (.error (.invalidKey short)) (.error (.invalidKey short))
  | ambiguous {short : String} {listed listed' : List String} : listed.Perm listed' →
      SameOutcome (.error (.ambiguousKey short listed)) (.error (.ambiguousKey short listed'))

theorem sameOutcome_refusal {candidates candidates' : List String} (short : String)
    (h : candidates.Perm candidates') :
    SameOutcome (.error (refusal short candidates)) (.error (refusal short candidates')) := by
  by_cases hempty : candidates = []
  · have hempty' : candidates' = [] := List.nil_perm.1 (hempty ▸ h)
    rw [refusal, if_pos hempty, refusal, if_pos hempty']
    exact .invalid short
  · have hempty' : candidates' ≠ [] := by
      rintro rfl
      exact hempty (List.perm_nil.1 h)
    rw [refusal, if_neg hempty, refusal, if_neg hempty']
    exact .ambiguous h

/-- The outcome of a lookup depends on the keys that end with the text, and on their values. -/
theorem lookup_sameOutcome (h : SameEndings t t' short) :
    SameOutcome (t.lookup short) (t'.lookup short) := by
  cases hlookup : t.lookup short with
  | ok found =>
    obtain ⟨k, v⟩ := found
    obtain ⟨hmeans, hv⟩ := lookup_eq_ok_iff.1 hlookup
    have hlookup' : t'.lookup short = .ok (k, v) :=
      lookup_eq_ok_iff.2 ⟨h.means hmeans, (h k hmeans.endsWith).symm.trans hv⟩
    rw [hlookup']
    exact .found k v
  | error e =>
    cases hlookup' : t'.lookup short with
    | ok found =>
      -- What the second table has for the text the first has as well.
      obtain ⟨hmeans, hv⟩ := lookup_eq_ok_iff.1 hlookup'
      rw [lookup_eq_ok_iff.2 ⟨h.symm.means hmeans, (h _ hmeans.endsWith).trans hv⟩] at hlookup
      cases hlookup
    | error e' =>
      rw [lookup_eq_error hlookup, lookup_eq_error hlookup']
      exact sameOutcome_refusal short h.candidates

theorem sameEndings_of_perm (h : t.entries.Perm t'.entries) (short : String) :
    SameEndings t t' short := fun k _ => get?_of_perm h k

theorem sameEndings_put (hk : endsWith k short = false) (v : Value) :
    SameEndings t (t.put k v) short := by
  intro k' hk'
  rw [get?_put, if_neg]
  rintro rfl
  exact Bool.false_ne_true (hk.symm.trans hk')

theorem sameEndings_erase (hk : endsWith k short = false) : SameEndings t (t.erase k) short := by
  intro k' hk'
  rw [get?_erase, if_neg]
  rintro rfl
  exact Bool.false_ne_true (hk.symm.trans hk')

theorem lookup_eq_invalidKey_iff :
    t.lookup short = .error (.invalidKey short) ↔ ∀ k ∈ t.keys, endsWith k short = false := by
  constructor
  · intro h
    rw [← candidates_eq_nil_iff]
    by_contra hsome
    have he := lookup_eq_error h
    rw [refusal, if_neg hsome] at he
    cases he
  · intro hnone
    cases hlookup : t.lookup short with
    | ok found =>
      have hmeans := (lookup_eq_ok_iff.1 hlookup).1
      exact absurd ((hnone _ hmeans.mem_keys).symm.trans hmeans.endsWith) Bool.false_ne_true
    | error e =>
      rw [lookup_eq_error hlookup, refusal, if_pos (candidates_eq_nil_iff.2 hnone)]

/-- What is found is a key that ends with the text, with its value, and a text is invalid exactly if
no key ends with it.  Any other error lists all keys that end with it.  Neither the order of the
keys nor keys that do not end with the text change the outcome. -/
theorem lookup_depends_on_endings (t : Settings) (short : String) :
    (∀ k v, t.lookup short = .ok (k, v) →
        k ∈ t.keys ∧ t.get? k = some v ∧ endsWith k short = true) ∧
      (t.lookup short = .error (.invalidKey short) ↔ ∀ k ∈ t.keys, endsWith k short = false) ∧
      (∀ e, t.lookup short = .error e → e = .invalidKey short ∨
        ∃ listed, e = .ambiguousKey short listed ∧ listed.Perm (t.keys.filter (endsWith · short))) ∧
      (∀ t' : Settings, SameEndings t t' short → SameOutcome (t.lookup short) (t'.lookup short)) ∧
      (∀ t' : Settings, t.entries.Perm t'.entries →
        SameOutcome (t.lookup short) (t'.lookup short)) ∧
      ∀ k, endsWith k short = false →
        SameOutcome (t.lookup short) (Settings.lookup (t.erase k) short) ∧
          ∀ v, SameOutcome (t.lookup short) (Settings.lookup (t.put k v) short) := by
  refine ⟨?_, lookup_eq_invalidKey_iff, ?_, fun t' => lookup_sameOutcome, ?_, ?_⟩
  · intro k v h
    obtain ⟨hmeans, hv⟩ := lookup_eq_ok_iff.1 h
    exact ⟨hmeans.mem_keys, hv, hmeans.endsWith⟩
  · intro e h
    rw [lookup_eq_error h]
    by_cases hempty : t.candidates short = []
    · exact .inl (if_pos hempty)
    · exact .inr ⟨t.candidates short, if_neg hempty, candidates_perm t short⟩
  · intro t' h
    exact lookup_sameOutcome (sameEndings_of_perm h short)
  · intro k hk
    constructor
    · exact lookup_sameOutcome (sameEndings_erase hk)
    · intro v
      exact lookup_sameOutcome (sameEndings_put hk v)

/-- A key found by its end, in spite of changes of the others and of their order. -/
theorem end_of_key_found :
    let t := files [("size", .int 3)]
    t.lookup "tput.file" = .ok ("output.file", .int 2) ∧
      endsWith "output.file" "tput.file" = true ∧
      SameOutcome (t.lookup "tput.file") ((files []).lookup "tput.file") ∧
      SameOutcome (t.lookup "tput.file") (Settings.lookup (.ofList t.entries.reverse) "tput.file") ∧
      SameOutcome (t.lookup "tput.file") ((files [("size", .int 4)]).lookup "tput.file") ∧
      SameOutcome (t.lookup "tput.file") (Settings.lookup (t.erase "input.file") "tput.file") := by
  intro t
  have hfound : t.lookup "tput.file" = .ok ("output.file", .int 2) := rfl
  have hsize : endsWith "size" "tput.file" = false := by decide +kernel
  obtain ⟨hsound, -, -, hsame, horder, hchange⟩ := lookup_depends_on_endings t "tput.file"
  refine ⟨hfound, (hsound _ _ hfound).2.2, ?_, ?_, ?_, ?_⟩
  · exact hsame (files []) (sameEndings_erase hsize)
  · exact horder (.ofList t.entries.reverse) (List.reverse_perm t.entries).symm
  · exact (hchange "size" hsize).2 (.int 4)
  · exact (hchange "input.file" (by decide +kernel)).1

end Outcomes

end FlowDiagram.Settings
