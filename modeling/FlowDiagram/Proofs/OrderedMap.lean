import FlowDiagram.OrderedMap

/-! # First occurrences and writing in bulk

A list without repeats is built by adding what is new at the end, and so are the keys of a map that
is written key by key.  When items write their values at some keys each, the last item stands if
writing replaces a value, and the first if it does not.
-/

namespace FlowDiagram

universe u v w

section KeepFirst

variable {α : Type u} [DecidableEq α]

/-- Add an element at the end unless it is there. -/
def keepNew (kept : List α) (x : α) : List α := if x ∈ kept then kept else kept ++ [x]

/-- The elements that are not among others, each where it first occurs. -/
def keepFresh (old xs : List α) : List α := (keepFirst xs).filter (· ∉ old)

theorem keepFirst_eq_foldl (xs : List α) : keepFirst xs = xs.foldl keepNew [] := rfl

@[simp] theorem keepFresh_nil (old : List α) : keepFresh old [] = [] := rfl

theorem keepFresh_empty (xs : List α) : keepFresh [] xs = keepFirst xs := by
  simp [keepFresh]

theorem foldl_keepNew_keepFirst (xs ys : List α) :
    ys.foldl keepNew (keepFirst xs) = keepFirst (xs ++ ys) := by
  rw [keepFirst_eq_foldl, keepFirst_eq_foldl, List.foldl_append]

theorem mem_keepNew {kept : List α} {x y : α} : y ∈ keepNew kept x ↔ y ∈ kept ∨ y = x := by
  unfold keepNew
  split
  · next h =>
    constructor
    · exact Or.inl
    · rintro (hy | rfl)
      · exact hy
      · exact h
  · simp

theorem nodup_keepNew {kept : List α} (h : kept.Nodup) (x : α) : (keepNew kept x).Nodup := by
  unfold keepNew
  split
  · exact h
  · next hx => simpa [List.nodup_append, h] using fun y hy (e : y = x) => hx (e ▸ hy)

theorem mem_foldl_keepNew {xs kept : List α} {y : α} :
    y ∈ xs.foldl keepNew kept ↔ y ∈ kept ∨ y ∈ xs := by
  induction xs generalizing kept with
  | nil => simp
  | cons x xs ih => rw [List.foldl_cons, ih, mem_keepNew, List.mem_cons, or_assoc]

theorem nodup_foldl_keepNew (xs : List α) {kept : List α} (h : kept.Nodup) :
    (xs.foldl keepNew kept).Nodup := by
  induction xs generalizing kept with
  | nil => exact h
  | cons x xs ih => exact ih (nodup_keepNew h x)

@[simp]
theorem mem_keepFirst {xs : List α} {y : α} : y ∈ keepFirst xs ↔ y ∈ xs := by
  rw [keepFirst_eq_foldl, mem_foldl_keepNew]
  simp

theorem nodup_keepFirst (xs : List α) : (keepFirst xs).Nodup :=
  nodup_foldl_keepNew xs List.nodup_nil

/-- Of lists with the same elements the same elements are kept. -/
theorem keepFirst_perm_iff {xs ys : List α} :
    (keepFirst xs).Perm (keepFirst ys) ↔ ∀ a, a ∈ xs ↔ a ∈ ys := by
  rw [List.perm_ext_iff_of_nodup (nodup_keepFirst xs) (nodup_keepFirst ys)]
  simp only [mem_keepFirst]

/-- Of the elements that are added one by one, those that are new follow what was there. -/
theorem foldl_keepNew (xs kept : List α) :
    xs.foldl keepNew kept = kept ++ keepFresh kept xs := by
  induction xs generalizing kept with
  | nil => simp
  | cons x xs ih =>
    have hfirst : keepFirst (x :: xs) = x :: keepFresh [x] xs := by
      rw [keepFirst_eq_foldl, List.foldl_cons, ih]
      rfl
    have hfresh : keepFresh kept (x :: xs) = (x :: keepFresh [x] xs).filter (· ∉ kept) := by
      rw [keepFresh, hfirst]
    rw [List.foldl_cons, ih, hfresh, keepNew]
    split
    · next hx =>
      rw [List.filter_cons_of_neg (by simpa using hx), keepFresh, keepFresh, List.filter_filter]
      refine congrArg (kept ++ ·) (List.filter_congr fun y _ => ?_)
      by_cases hy : y = x
      · simp [hy, hx]
      · simp [hy]
    · next hx =>
      rw [List.filter_cons_of_pos (by simpa using hx), keepFresh, keepFresh, List.filter_filter]
      simp [List.mem_append, not_or]

theorem mem_append_keepFresh {old xs : List α} {y : α} :
    y ∈ old ++ keepFresh old xs ↔ y ∈ old ++ xs := by
  rw [← foldl_keepNew, mem_foldl_keepNew, List.mem_append]

theorem keepFresh_congr {old old' : List α} (h : ∀ y, y ∈ old ↔ y ∈ old') (xs : List α) :
    keepFresh old xs = keepFresh old' xs := by
  simp only [keepFresh, h]

theorem keepFresh_disjoint {old xs : List α} (h : ∀ x ∈ xs, x ∉ old) (old' : List α) :
    keepFresh (old ++ old') xs = keepFresh old' xs := by
  refine List.filter_congr fun x hx => ?_
  simp [h x (mem_keepFirst.1 hx)]

theorem keepFresh_cons (old : List α) (x : α) (xs : List α) :
    keepFresh old (x :: xs) =
      if x ∈ old then keepFresh old xs else x :: keepFresh (old ++ [x]) xs := by
  refine (List.append_right_inj old).1 ?_
  rw [← foldl_keepNew, List.foldl_cons, foldl_keepNew, keepNew]
  split
  · rfl
  · rw [List.append_assoc, List.singleton_append]

theorem keepFresh_append (old xs ys : List α) :
    keepFresh old (xs ++ ys) = keepFresh old xs ++ keepFresh (old ++ xs) ys := by
  refine (List.append_right_inj old).1 ?_
  rw [← foldl_keepNew, List.foldl_append, foldl_keepNew, foldl_keepNew, List.append_assoc,
    keepFresh_congr fun _ => mem_append_keepFresh]

theorem keepFirst_append (xs ys : List α) :
    keepFirst (xs ++ ys) = keepFirst xs ++ keepFresh xs ys := by
  rw [← keepFresh_empty, keepFresh_append, keepFresh_empty, List.nil_append]

theorem keepFirst_of_nodup {xs : List α} (h : xs.Nodup) : keepFirst xs = xs := by
  induction xs with
  | nil => rfl
  | cons x xs ih =>
    obtain ⟨hx, hxs⟩ := List.nodup_cons.1 h
    rw [← keepFresh_empty, keepFresh_cons, if_neg List.not_mem_nil, keepFresh, ih hxs,
      List.filter_eq_self.2]
    intro y hy
    simpa using fun e : y = x => hx (e ▸ hy)

theorem keepFresh_keepFirst (old xs : List α) : keepFresh old (keepFirst xs) = keepFresh old xs := by
  rw [keepFresh, keepFirst_of_nodup (nodup_keepFirst xs), keepFresh]

/-- Repeats within the parts of a list may be left out before those of the whole. -/
theorem keepFresh_flatMap_keepFirst {β : Type v} (f : β → List α) (bs : List β) (old : List α) :
    keepFresh old (bs.flatMap fun b => keepFirst (f b)) = keepFresh old (bs.flatMap f) := by
  induction bs generalizing old with
  | nil => rfl
  | cons b bs ih =>
    have hseen : ∀ a, a ∈ old ++ keepFirst (f b) ↔ a ∈ old ++ f b := by simp
    rw [List.flatMap_cons, List.flatMap_cons, keepFresh_append, keepFresh_append,
      keepFresh_keepFirst, ih, keepFresh_congr hseen]

theorem keepFirst_flatMap_keepFirst {β : Type v} (f : β → List α) (bs : List β) :
    keepFirst (bs.flatMap fun b => keepFirst (f b)) = keepFirst (bs.flatMap f) := by
  rw [← keepFresh_empty, keepFresh_flatMap_keepFirst, keepFresh_empty]

end KeepFirst

namespace OrderedMap

variable {κ : Type u} {α : Type v} {β : Type w} [DecidableEq κ]

theorem lookup_eq_some_iff {k : κ} {a : α} {es : List (κ × α)} (h : (es.map Prod.fst).Nodup) :
    lookup k es = some a ↔ (k, a) ∈ es := by
  induction es with
  | nil => simp [lookup]
  | cons e rest ih =>
    obtain ⟨k', a'⟩ := e
    rw [List.map_cons, List.nodup_cons] at h
    by_cases hk : k' = k
    · subst hk
      have hrest : (k', a) ∉ rest := fun hin => h.1 (List.mem_map.2 ⟨(k', a), hin, rfl⟩)
      simp [lookup, hrest, eq_comm]
    · simp [lookup, hk, Ne.symm hk, ih h.2]

theorem isSome_get?_iff {m : OrderedMap κ α} {k : κ} : (m.get? k).isSome ↔ k ∈ m.keys := by
  rw [Option.isSome_iff_ne_none, Ne, get?_eq_none_iff, Classical.not_not]

theorem exists_get?_of_mem {m : OrderedMap κ α} {k : κ} (h : k ∈ m.keys) :
    ∃ a, m.get? k = some a :=
  Option.isSome_iff_exists.1 (isSome_get?_iff.2 h)

/-- What a lookup gives does not depend on the order of the entries. -/
theorem get?_of_perm {m m' : OrderedMap κ α} (h : m.entries.Perm m'.entries) (k : κ) :
    m.get? k = m'.get? k := by
  ext a
  rw [get?, get?, lookup_eq_some_iff m.keys_nodup, lookup_eq_some_iff m'.keys_nodup, h.mem_iff]

theorem get?_erase (m : OrderedMap κ α) (k k' : κ) :
    (m.erase k).get? k' = if k = k' then none else m.get? k' := by
  ext a
  rw [get?, lookup_eq_some_iff (m.erase k).keys_nodup, erase, List.mem_filter]
  by_cases h : k = k'
  · simp [h]
  · simp [h, Ne.symm h, get?, lookup_eq_some_iff m.keys_nodup]

theorem mem_values {m : OrderedMap κ α} {a : α} : a ∈ m.values ↔ ∃ k, m.get? k = some a := by
  simp only [values, List.mem_map, Prod.exists, exists_eq_right, get?,
    lookup_eq_some_iff m.keys_nodup]

theorem eq_of_lookup_eq {es fs : List (κ × α)} (hnodup : (es.map Prod.fst).Nodup)
    (hkeys : es.map Prod.fst = fs.map Prod.fst) (h : ∀ k, lookup k es = lookup k fs) : es = fs := by
  induction es generalizing fs with
  | nil => exact (List.map_eq_nil_iff.1 hkeys.symm).symm
  | cons e es ih =>
    obtain ⟨k, a⟩ := e
    cases fs with
    | nil => cases hkeys
    | cons f fs =>
      obtain ⟨k', b⟩ := f
      obtain ⟨rfl, hrest⟩ := List.cons.inj hkeys
      obtain ⟨hk, hnodup⟩ := List.nodup_cons.1 hnodup
      have hvalue := h k
      simp only [lookup, if_true, Option.some.injEq] at hvalue
      have hlookup : ∀ k', lookup k' es = lookup k' fs := by
        intro k'
        by_cases hk' : k = k'
        · subst hk'
          rw [lookup_eq_none_iff.2 hk, lookup_eq_none_iff.2 (hrest ▸ hk)]
        · simpa [lookup, hk'] using h k'
      rw [hvalue, ih hnodup hrest hlookup]

/-- A map is known from its keys in order and from what a lookup gives at each key. -/
theorem ext_get? {m m' : OrderedMap κ α} (hkeys : m.keys = m'.keys)
    (h : ∀ k, m.get? k = m'.get? k) : m = m' := by
  obtain ⟨es, hes⟩ := m
  obtain ⟨fs, hfs⟩ := m'
  have : es = fs := eq_of_lookup_eq hes hkeys h
  subst this
  rfl

theorem keys_put_of_mem {m : OrderedMap κ α} {k : κ} (h : k ∈ m.keys) (a : α) :
    (m.put k a).keys = m.keys := by
  rw [keys_put, if_pos h]

theorem put_put {m : OrderedMap κ α} {k : κ} (hk : k ∈ m.keys) (a b : α) :
    (m.put k a).put k b = m.put k b := by
  have hkeys := keys_put_of_mem hk a
  refine ext_get? ?_ fun j => ?_
  · rw [keys_put_of_mem (hkeys.symm ▸ hk : k ∈ (m.put k a).keys), hkeys, keys_put_of_mem hk]
  · simp only [get?_put]
    split <;> rfl

theorem put_comm {m : OrderedMap κ α} {k k' : κ} (hne : k ≠ k') (hk : k ∈ m.keys)
    (hk' : k' ∈ m.keys) (a b : α) : (m.put k a).put k' b = (m.put k' b).put k a := by
  have hkeys := keys_put_of_mem hk a
  have hkeys' := keys_put_of_mem hk' b
  refine ext_get? ?_ fun j => ?_
  · calc ((m.put k a).put k' b).keys = (m.put k a).keys := keys_put_of_mem (hkeys.symm ▸ hk') b
      _ = (m.put k' b).keys := hkeys.trans hkeys'.symm
      _ = ((m.put k' b).put k a).keys := (keys_put_of_mem (hkeys'.symm ▸ hk) a).symm
  · simp only [get?_put]
    by_cases hj : k' = j
    · have hkj : ¬ k = j := fun h => hne (h.trans hj.symm)
      rw [if_pos hj, if_neg hkj, if_pos hj]
    · rw [if_neg hj, if_neg hj]

/-- Writing at keys one after another adds the new ones at the end. -/
theorem keys_foldl_alter (f : Option α → α) (ks : List κ) (m : OrderedMap κ α) :
    (ks.foldl (fun m k => m.alter k f) m).keys = ks.foldl keepNew m.keys := by
  induction ks generalizing m with
  | nil => rfl
  | cons k ks ih => rw [List.foldl_cons, List.foldl_cons, ih, keys_alter]; rfl

/-- A key that is written twice is as if it were written once. -/
theorem get?_foldl_alter {f : Option α → α} (hf : ∀ o, f (some (f o)) = f o) (ks : List κ)
    (m : OrderedMap κ α) (k : κ) :
    (ks.foldl (fun m k => m.alter k f) m).get? k =
      if k ∈ ks then some (f (m.get? k)) else m.get? k := by
  induction ks generalizing m with
  | nil => simp
  | cons k' ks ih =>
    rw [List.foldl_cons, ih, get?_alter]
    by_cases hk : k' = k
    · simp [hk, hf]
    · simp [hk, Ne.symm hk]

section Items

variable (keysOf : β → List κ)

/-- Whatever items write at their keys, the keys are kept where they first occur. -/
theorem keys_foldl_items (f : β → Option α → α) (items : List β) (m : OrderedMap κ α) :
    (items.foldl (fun m i => (keysOf i).foldl (fun m k => m.alter k (f i)) m) m).keys =
      (items.flatMap keysOf).foldl keepNew m.keys := by
  induction items generalizing m with
  | nil => rfl
  | cons i items ih =>
    rw [List.foldl_cons, ih, keys_foldl_alter, List.flatMap_cons, List.foldl_append]

variable (valueOf : β → α) (k : κ)

/-- Of the items that put a value at a key, the last stands. -/
theorem get?_foldl_put (items : List β) (m : OrderedMap κ α) :
    (items.foldl (fun m i => (keysOf i).foldl (fun m k => m.put k (valueOf i)) m) m).get? k =
      ((items.filter (k ∈ keysOf ·)).getLast?.map valueOf).or (m.get? k) := by
  induction items generalizing m with
  | nil => rfl
  | cons i items ih =>
    have hput : ((keysOf i).foldl (fun m k => m.put k (valueOf i)) m).get? k =
        if k ∈ keysOf i then some (valueOf i) else m.get? k :=
      get?_foldl_alter (fun _ => rfl) (keysOf i) m k
    rw [List.foldl_cons, ih, hput]
    by_cases hi : k ∈ keysOf i
    · rw [List.filter_cons_of_pos (by simpa using hi), List.getLast?_cons, if_pos hi]
      cases (items.filter (k ∈ keysOf ·)).getLast? <;> rfl
    · rw [List.filter_cons_of_neg (by simpa using hi), if_neg hi]

/-- Of the items that put a value at a key where there is none, the first stands. -/
theorem get?_foldl_putNew (items : List β) (m : OrderedMap κ α) :
    (items.foldl (fun m i => (keysOf i).foldl (fun m k => m.putNew k (valueOf i)) m) m).get? k =
      (m.get? k).or ((items.filter (k ∈ keysOf ·)).head?.map valueOf) := by
  induction items generalizing m with
  | nil => simp
  | cons i items ih =>
    have hput : ((keysOf i).foldl (fun m k => m.putNew k (valueOf i)) m).get? k =
        if k ∈ keysOf i then some ((m.get? k).getD (valueOf i)) else m.get? k :=
      get?_foldl_alter (fun _ => rfl) (keysOf i) m k
    rw [List.foldl_cons, ih, hput]
    by_cases hi : k ∈ keysOf i
    · rw [List.filter_cons_of_pos (by simpa using hi), if_pos hi]
      cases m.get? k <;> rfl
    · rw [List.filter_cons_of_neg (by simpa using hi), if_neg hi]

end Items

end OrderedMap

end FlowDiagram
