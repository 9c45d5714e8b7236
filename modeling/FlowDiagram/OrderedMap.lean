/-! # Maps in insertion order

Each key occurs once.  A new key goes to the end, and writing to a key that is there keeps its
place.  All writing goes through `alter`, so its two laws, on the keys and on lookup, give those
of the other operations.
-/

namespace FlowDiagram

universe u v

structure OrderedMap (κ : Type u) (α : Type v) where
  entries : List (κ × α)
  keys_nodup : (entries.map Prod.fst).Nodup

namespace OrderedMap

variable {κ : Type u} {α : Type v}

def empty : OrderedMap κ α := ⟨[], List.nodup_nil⟩

instance : Inhabited (OrderedMap κ α) := ⟨empty⟩

def keys (m : OrderedMap κ α) : List κ := m.entries.map Prod.fst

def values (m : OrderedMap κ α) : List α := m.entries.map Prod.snd

def size (m : OrderedMap κ α) : Nat := m.entries.length

variable [DecidableEq κ]

def lookup (k : κ) : List (κ × α) → Option α
  | [] => none
  | (k', a) :: rest => if k' = k then some a else lookup k rest

/-- Replace the value at a key, or add the key at the end. -/
def alterEntries (f : Option α → α) (k : κ) : List (κ × α) → List (κ × α)
  | [] => [(k, f none)]
  | (k', a) :: rest =>
    if k' = k then (k', f (some a)) :: rest else (k', a) :: alterEntries f k rest

theorem alterEntries_keys (f : Option α → α) (k : κ) (es : List (κ × α)) :
    (alterEntries f k es).map Prod.fst =
      if k ∈ es.map Prod.fst then es.map Prod.fst else es.map Prod.fst ++ [k] := by
  induction es with
  | nil => simp [alterEntries]
  | cons e rest ih =>
    obtain ⟨k', a⟩ := e
    by_cases h : k' = k
    · simp [alterEntries, h]
    · have h' : ¬ k = k' := fun e => h e.symm
      simp only [alterEntries, if_neg h, List.map_cons, List.mem_cons, h', false_or, ih]
      split <;> simp

theorem lookup_alterEntries (f : Option α → α) (k k' : κ) (es : List (κ × α)) :
    lookup k' (alterEntries f k es) =
      if k = k' then some (f (lookup k es)) else lookup k' es := by
  induction es with
  | nil => simp [alterEntries, lookup]
  | cons e rest ih =>
    obtain ⟨k₀, a⟩ := e
    by_cases h : k₀ = k
    · subst h
      by_cases h' : k₀ = k' <;> simp [alterEntries, lookup, h']
    · simp only [alterEntries, if_neg h, lookup, ih]
      by_cases h' : k₀ = k'
      · subst h'
        simp [Ne.symm h]
      · simp [h']

def get? (m : OrderedMap κ α) (k : κ) : Option α := lookup k m.entries

def contains (m : OrderedMap κ α) (k : κ) : Bool := m.keys.contains k

def alter (m : OrderedMap κ α) (k : κ) (f : Option α → α) : OrderedMap κ α where
  entries := alterEntries f k m.entries
  keys_nodup := by
    rw [alterEntries_keys]
    split
    · exact m.keys_nodup
    · next h =>
      refine List.nodup_append.2 ⟨m.keys_nodup, by simp, ?_⟩
      intro a ha b hb hab
      rw [List.mem_singleton] at hb
      exact h (hb ▸ hab ▸ ha)

/-- Write a value at a key. -/
def put (m : OrderedMap κ α) (k : κ) (a : α) : OrderedMap κ α := m.alter k fun _ => a

/-- Write a value at a key unless the key is there. -/
def putNew (m : OrderedMap κ α) (k : κ) (a : α) : OrderedMap κ α := m.alter k (·.getD a)

/-- Add a value at the end of the list at a key. -/
def push {β : Type v} (m : OrderedMap κ (List β)) (k : κ) (b : β) : OrderedMap κ (List β) :=
  m.alter k (·.getD [] ++ [b])

/-- The map without a key. -/
def erase (m : OrderedMap κ α) (k : κ) : OrderedMap κ α where
  entries := m.entries.filter (·.1 ≠ k)
  keys_nodup := (List.filter_sublist.map Prod.fst).nodup m.keys_nodup

/-- The map that the pairs leave when they are written in order. -/
def ofList (es : List (κ × α)) : OrderedMap κ α := es.foldl (fun m e => m.put e.1 e.2) empty

theorem keys_alter (m : OrderedMap κ α) (k : κ) (f : Option α → α) :
    (m.alter k f).keys = if k ∈ m.keys then m.keys else m.keys ++ [k] :=
  alterEntries_keys f k m.entries

theorem get?_alter (m : OrderedMap κ α) (k k' : κ) (f : Option α → α) :
    (m.alter k f).get? k' = if k = k' then some (f (m.get? k)) else m.get? k' :=
  lookup_alterEntries f k k' m.entries

theorem keys_put (m : OrderedMap κ α) (k : κ) (a : α) :
    (m.put k a).keys = if k ∈ m.keys then m.keys else m.keys ++ [k] :=
  keys_alter ..

theorem get?_put (m : OrderedMap κ α) (k k' : κ) (a : α) :
    (m.put k a).get? k' = if k = k' then some a else m.get? k' :=
  get?_alter ..

theorem get?_putNew (m : OrderedMap κ α) (k k' : κ) (a : α) :
    (m.putNew k a).get? k' = if k = k' then some ((m.get? k).getD a) else m.get? k' :=
  get?_alter ..

theorem get?_push {β : Type v} (m : OrderedMap κ (List β)) (k k' : κ) (b : β) :
    (m.push k b).get? k' = if k = k' then some ((m.get? k).getD [] ++ [b]) else m.get? k' :=
  get?_alter ..

theorem lookup_eq_none_iff {k : κ} {es : List (κ × α)} :
    lookup k es = none ↔ k ∉ es.map Prod.fst := by
  induction es with
  | nil => simp [lookup]
  | cons e rest ih =>
    obtain ⟨k', a⟩ := e
    by_cases h : k' = k
    · simp [lookup, h]
    · have h' : ¬ k = k' := fun e => h e.symm
      simp [lookup, h, h', ih]

theorem get?_eq_none_iff {m : OrderedMap κ α} {k : κ} : m.get? k = none ↔ k ∉ m.keys :=
  lookup_eq_none_iff

end OrderedMap

/-- The elements without those that occurred before. -/
def keepFirst {α : Type u} [DecidableEq α] (xs : List α) : List α :=
  xs.foldl (fun kept x => if x ∈ kept then kept else kept ++ [x]) []

end FlowDiagram
