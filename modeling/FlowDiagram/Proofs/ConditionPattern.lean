import FlowDiagram.Proofs.Conditions

/-! # The pattern of a condition

A condition is read by the pattern `(.+?)\s*=\s*(.+)`: the shortest name, any blanks, the sign,
the longest run of blanks and the longest value, from as far left as possible.  Its readings are
listed in the order in which a search that backs out of each choice tries them, and the first one is
the condition, unless it is blank on either side.  In terms of places, the name is the first piece
of one line that a sign follows, blanks aside, first by where it starts and then by where it ends;
blanks may cross lines, and the value is the rest of the line on which the first character after
them stands.  Backing out of the blanks after a sign finds a value only where nothing else follows,
and that value is blank.
-/

namespace FlowDiagram.Condition

open Text

section Places

variable {t rest : List Char} {s p k v e : Nat} {c : Char}

/-- The first character of a text from `p` on that is not blank is `c`, and it stands at `k`. -/
structure FirstSolid (t : List Char) (p k : Nat) (c : Char) : Prop where
  le : p ≤ k
  char : t[k]? = some c
  solid : isBlank c = false
  blanks : ∀ i, p ≤ i → i < k → ∀ d ∈ t[i]?, isBlank d = true

/-- The piece of a text from `s` up to `p` is not empty and on one line, and the equality sign at
`k` follows it with nothing but blanks in between. -/
structure NamedAt (t : List Char) (s p k : Nat) : Prop where
  lt : s < p
  line : '\n' ∉ t.extract s p
  sign : FirstSolid t p k '='

/-- Of all such pieces this one starts first, and is the shortest that starts there. -/
structure FirstNamedAt (t : List Char) (s p k : Nat) : Prop where
  named : NamedAt t s p k
  least : ∀ s' p' k', NamedAt t s' p' k' → s < s' ∨ s = s' ∧ p ≤ p'

/-- The line on which `v` stands ends at `e`. -/
structure LineEndsAt (t : List Char) (v e : Nat) : Prop where
  le : v ≤ e
  le_length : e ≤ t.length
  line : '\n' ∉ t.extract v e
  stop : e = t.length ∨ t[e]? = some '\n'

theorem drop_eq_cons (h : t[k]? = some c) : t.drop k = c :: t.drop (k + 1) := by
  obtain ⟨hk, rfl⟩ := List.getElem?_eq_some_iff.1 h
  exact List.drop_eq_getElem_cons hk

theorem drop_eq_extract_append (h : s ≤ p) : t.drop s = t.extract s p ++ t.drop p := by
  have hp : p = s + (p - s) := by omega
  rw [hp, List.extract_eq_take_drop, ← List.drop_drop, ← hp, List.take_append_drop]

theorem FirstSolid.trimLeft_eq (h : FirstSolid t p k c) :
    trimLeft (t.drop p) = c :: t.drop (k + 1) := by
  have hblank : AllBlank (t.extract p k) := by
    intro d hd
    obtain ⟨i, hi⟩ := List.mem_iff_getElem?.1 hd
    rw [List.extract_eq_take_drop, List.getElem?_take, List.getElem?_drop] at hi
    split at hi
    · exact h.blanks (p + i) (by omega) (by omega) d hi
    · cases hi
  rw [drop_eq_extract_append h.le, trimLeft_append_of_blank hblank, drop_eq_cons h.char,
    trimLeft_cons, h.solid]
  rfl

theorem exists_firstSolid (h : trimLeft (t.drop p) = c :: rest) :
    ∃ k, FirstSolid t p k c ∧ t.drop (k + 1) = rest := by
  have hsplit : t.drop p = (t.drop p).takeWhile isBlank ++ c :: rest := by
    rw [← h]
    exact List.takeWhile_append_dropWhile.symm
  generalize hw : (t.drop p).takeWhile isBlank = w at hsplit
  have hat : ∀ i, t[p + i]? = (w ++ c :: rest)[i]? := by
    intro i
    rw [← List.getElem?_drop, hsplit]
  refine ⟨p + w.length, ⟨by omega, ?_, head_trimLeft _ h, ?_⟩, ?_⟩
  · simp [hat]
  · intro i hp hi d hd
    have hd : d ∈ w := by
      obtain ⟨j, rfl⟩ := Nat.exists_eq_add_of_le hp
      rw [hat, List.getElem?_append_left (by omega)] at hd
      exact List.mem_of_getElem? hd
    rw [← hw] at hd
    exact List.mem_takeWhile_imp hd
  · rw [Nat.add_assoc, ← List.drop_drop, hsplit]
    simp

theorem afterSign?_drop_eq_some (h : FirstSolid t p k '=') :
    afterSign? (t.drop p) = some (t.drop (k + 1)) := by
  simp only [afterSign?, h.trimLeft_eq]

theorem exists_sign (h : afterSign? (t.drop p) = some rest) :
    ∃ k, FirstSolid t p k '=' ∧ t.drop (k + 1) = rest := by
  unfold afterSign? at h
  split at h
  · next hsign =>
    cases h
    exact exists_firstSolid hsign
  · cases h

theorem extract_eq_cons (h : t[s]? = some c) (hlt : s < p) :
    t.extract s p = c :: t.extract (s + 1) p := by
  have hp : p - s = p - (s + 1) + 1 := by omega
  rw [List.extract_eq_take_drop, drop_eq_cons h, hp, List.take_succ_cons]

theorem NamedAt.lt_length (h : NamedAt t s p k) : s < t.length := by
  obtain ⟨hk, -⟩ := List.getElem?_eq_some_iff.1 h.sign.char
  have hlt := h.lt
  have hle := h.sign.le
  omega

/-- No piece starts past the end of a text. -/
theorem not_namedAt_of_drop_eq_nil {b : Nat} (h : t.drop b = []) (hb : b ≤ s) :
    ¬NamedAt t s p k := by
  intro hnamed
  have hlength : t.length ≤ b := List.drop_eq_nil_iff.1 h
  have hlt := hnamed.lt_length
  omega

/-- A piece that is longer than its first character may start one character later. -/
theorem namedAt_iff (h : t[s]? = some c) (hc : c ≠ '\n')
    (hsign : afterSign? (t.drop (s + 1)) = none) :
    NamedAt t s p k ↔ NamedAt t (s + 1) p k := by
  constructor
  · intro hnamed
    have hne : p ≠ s + 1 := by
      rintro rfl
      rw [afterSign?_drop_eq_some hnamed.sign] at hsign
      cases hsign
    have hline := hnamed.line
    rw [extract_eq_cons h hnamed.lt] at hline
    have hlt := hnamed.lt
    exact ⟨by omega, fun hmem => hline (List.mem_cons_of_mem c hmem), hnamed.sign⟩
  · intro hnamed
    have hlt := hnamed.lt
    have hline : '\n' ∉ t.extract s p := by
      rw [extract_eq_cons h (by omega)]
      intro hmem
      rcases List.mem_cons.1 hmem with hmem | hmem
      · exact hc hmem.symm
      · exact hnamed.line hmem
    exact ⟨by omega, hline, hnamed.sign⟩

/-- The pieces that start at a place are sought from the shortest on. -/
theorem leadingAttribute?_drop (t : List Char) (s : Nat) :
    (∃ p k, NamedAt t s p k ∧ (∀ p' k', NamedAt t s p' k' → p ≤ p') ∧
        leadingAttribute? (t.drop s) = some (t.extract s p, t.drop (k + 1))) ∨
      (∀ p k, ¬NamedAt t s p k) ∧ leadingAttribute? (t.drop s) = none := by
  generalize hu : t.drop s = u
  induction u generalizing s with
  | nil => exact .inr ⟨fun p k => not_namedAt_of_drop_eq_nil hu (Nat.le_refl s), rfl⟩
  | cons c u ih =>
    have hchar : t[s]? = some c := by
      rw [← Nat.add_zero s, ← List.getElem?_drop, hu]
      rfl
    have hrest : t.drop (s + 1) = u := by
      rw [← List.drop_drop, hu]
      rfl
    by_cases hc : c = '\n'
    · refine .inr ⟨fun p k h => h.line ?_, by simp [leadingAttribute?, hc]⟩
      rw [extract_eq_cons hchar h.lt, hc]
      exact List.mem_cons_self
    · cases hsign : afterSign? u with
      | some rest =>
        obtain ⟨k, hk, rfl⟩ := exists_sign (hrest ▸ hsign)
        have hpiece : t.extract s (s + 1) = [c] := by
          rw [extract_eq_cons hchar (by omega)]
          simp
        refine .inl ⟨s + 1, k, ⟨by omega, ?_, hk⟩, fun p' k' h => h.lt, ?_⟩
        · simp [hpiece, Ne.symm hc]
        · simp [leadingAttribute?, hc, hsign, hpiece]
      | none =>
        have hsame : ∀ p k, NamedAt t s p k ↔ NamedAt t (s + 1) p k := fun p k =>
          namedAt_iff hchar hc (hrest ▸ hsign)
        rcases ih (s + 1) hrest with ⟨p, k, hnamed, hleast, hfound⟩ | ⟨hnot, hnone⟩
        · refine .inl ⟨p, k, (hsame p k).2 hnamed, ?_, ?_⟩
          · intro p' k' h
            exact hleast p' k' ((hsame p' k').1 h)
          · have hlt := hnamed.lt
            rw [extract_eq_cons hchar (by omega)]
            simp [leadingAttribute?, hc, hsign, hfound]
        · refine .inr ⟨fun p k h => hnot p k ((hsame p k).1 h), ?_⟩
          simp [leadingAttribute?, hc, hsign, hnone]

/-- Of the pieces that start at one place or later the first one is found. -/
theorem findAttribute?_drop (t : List Char) (b : Nat) :
    (∃ s p k, NamedAt t s p k ∧
        (∀ s' p' k', b ≤ s' → NamedAt t s' p' k' → s < s' ∨ s = s' ∧ p ≤ p') ∧
        findAttribute? (t.drop b) = some (t.extract s p, t.drop (k + 1))) ∨
      (∀ s p k, b ≤ s → ¬NamedAt t s p k) ∧ findAttribute? (t.drop b) = none := by
  generalize hu : t.drop b = u
  induction u generalizing b with
  | nil => exact .inr ⟨fun s p k hb => not_namedAt_of_drop_eq_nil hu hb, rfl⟩
  | cons c u ih =>
    have hrest : t.drop (b + 1) = u := by
      rw [← List.drop_drop, hu]
      rfl
    have hleading := leadingAttribute?_drop t b
    rw [hu] at hleading
    rcases hleading with ⟨p, k, hnamed, hleast, hfound⟩ | ⟨hnot, hnone⟩
    · refine .inl ⟨b, p, k, hnamed, ?_, findAttribute?_of_leadingAttribute? hfound⟩
      intro s' p' k' hb h
      rcases Nat.lt_or_eq_of_le hb with hlt | rfl
      · exact .inl hlt
      · exact .inr ⟨rfl, hleast p' k' h⟩
    · have hlater : ∀ s p k, b ≤ s → NamedAt t s p k → b + 1 ≤ s := by
        intro s p k hb h
        have hne : b ≠ s := by
          rintro rfl
          exact hnot p k h
        omega
      rw [findAttribute?, hnone]
      rcases ih (b + 1) hrest with ⟨s, p, k, hnamed, hleast, hfound⟩ | ⟨hnot', hnone'⟩
      · refine .inl ⟨s, p, k, hnamed, ?_, hfound⟩
        intro s' p' k' hb h
        exact hleast s' p' k' (hlater s' p' k' hb h) h
      · refine .inr ⟨?_, hnone'⟩
        intro s p k hb h
        exact hnot' s p k (hlater s p k hb h) h

theorem FirstSolid.unique {k' : Nat} {c' : Char} (h : FirstSolid t p k c)
    (h' : FirstSolid t p k' c') : k = k' := by
  obtain ⟨hk, -⟩ := List.getElem?_eq_some_iff.1 h.char
  obtain ⟨hk', -⟩ := List.getElem?_eq_some_iff.1 h'.char
  have hrest := congrArg List.length (h.trimLeft_eq.symm.trans h'.trimLeft_eq)
  simp only [List.length_cons, List.length_drop] at hrest
  omega

theorem FirstNamedAt.findAttribute?_eq (h : FirstNamedAt t s p k) :
    findAttribute? t = some (t.extract s p, t.drop (k + 1)) := by
  rcases findAttribute?_drop t 0 with ⟨s', p', k', hnamed, hleast, hfound⟩ | ⟨hnot, -⟩
  · have hle := hleast s p k (Nat.zero_le s) h.named
    have hge := h.least s' p' k' hnamed
    obtain rfl : s = s' := by omega
    obtain rfl : p = p' := by omega
    rw [h.named.sign.unique hnamed.sign]
    exact hfound
  · exact absurd h.named (hnot s p k (Nat.zero_le s))

theorem findAttribute?_eq_none_iff :
    findAttribute? t = none ↔ ∀ s p k, ¬NamedAt t s p k := by
  rcases findAttribute?_drop t 0 with ⟨s, p, k, hnamed, -, hfound⟩ | ⟨hnot, hnone⟩
  · apply iff_of_false
    · rw [← List.drop_zero (l := t), hfound]
      simp
    · intro h
      exact h s p k hnamed
  · exact iff_of_true hnone fun s p k => hnot s p k (Nat.zero_le s)

theorem exists_firstNamedAt (h : findAttribute? t ≠ none) : ∃ s p k, FirstNamedAt t s p k := by
  rcases findAttribute?_drop t 0 with ⟨s, p, k, hnamed, hleast, -⟩ | ⟨-, hnone⟩
  · exact ⟨s, p, k, hnamed, fun s' p' k' => hleast s' p' k' (Nat.zero_le s')⟩
  · exact absurd hnone h

theorem LineEndsAt.takeWhile_eq (h : LineEndsAt t v e) :
    (t.drop v).takeWhile (· ≠ '\n') = t.extract v e := by
  rw [drop_eq_extract_append h.le, takeWhile_ne_append h.line]
  rcases h.stop with hstop | hstop
  · simp [hstop]
  · simp [drop_eq_cons hstop]

theorem exists_lineEndsAt (h : v ≤ t.length) : ∃ e, LineEndsAt t v e := by
  generalize hw : (t.drop v).takeWhile (· ≠ '\n') = w
  generalize hr : (t.drop v).dropWhile (· ≠ '\n') = r
  have hsplit : t.drop v = w ++ r := by rw [← hw, ← hr, List.takeWhile_append_dropWhile]
  have hlength : t.length - v = w.length + r.length := by
    rw [← List.length_drop, hsplit, List.length_append]
  refine ⟨v + w.length, by omega, by omega, ?_, ?_⟩
  · rw [List.extract_eq_take_drop, hsplit, Nat.add_sub_cancel_left, List.take_left]
    intro hmem
    rw [← hw] at hmem
    simpa using List.mem_takeWhile_imp hmem
  · cases r with
    | nil =>
      simp only [List.length_nil] at hlength
      exact .inl (by omega)
    | cons c r =>
      have hc := List.head?_dropWhile_not (· ≠ '\n') (t.drop v)
      rw [hr] at hc
      apply Or.inr
      rw [← List.getElem?_drop, hsplit]
      simpa using hc

end Places

section Readings

variable {passes : Char → Bool} {s start rest value : List Char} {c : Char}

/-- The starts of a text whose characters all pass, each with what follows it, shortest first. -/
def starts (passes : Char → Bool) : List Char → List (List Char × List Char)
  | [] => [([], [])]
  | c :: s =>
    ([], c :: s) ::
      if passes c then (starts passes s).map fun (start, rest) => (c :: start, rest) else []

def inLine (c : Char) : Bool := c ≠ '\n'

/-- What may follow some blanks, the longest run of them first. -/
def pastBlanks (s : List Char) : List (List Char) := (starts isBlank s).reverse.map Prod.snd

def pastSign : List Char → List (List Char)
  | '=' :: s => [s]
  | _ => []

/-- The pieces of one line that a value may be, the longest first and none of them empty. -/
def values (s : List Char) : List (List Char) := (starts inLine s).tail.reverse.map Prod.fst

/-- The values that may follow a sign. -/
def followers (s : List Char) : List (List Char) := (pastBlanks s).flatMap values

/-- The names at the start of a text, the shortest first, with each value that may follow. -/
def readingsAt (s : List Char) : List (List Char × List Char) :=
  (starts inLine s).tail.flatMap fun (name, rest) =>
    (((pastBlanks rest).flatMap pastSign).flatMap followers).map (name, ·)

/-- All readings of a text by the pattern of a condition, in the order in which they are tried. -/
def readings (s : List Char) : List (List Char × List Char) := s.tails.flatMap readingsAt

/-- The names at the start of a text, the shortest first, with what follows the sign after each. -/
def attributesAt (s : List Char) : List (List Char × List Char) :=
  (starts inLine s).tail.flatMap fun (name, rest) => (afterSign? rest).toList.map (name, ·)

def attributes (s : List Char) : List (List Char × List Char) := s.tails.flatMap attributesAt

theorem pastBlanks_cons (c : Char) (s : List Char) :
    pastBlanks (c :: s) = (if isBlank c then pastBlanks s else []) ++ [c :: s] := by
  by_cases hc : isBlank c = true
  · simp [pastBlanks, starts, hc, Function.comp_def]
  · simp [pastBlanks, starts, hc]

theorem pastBlanks_flatMap_pastSign (s : List Char) :
    (pastBlanks s).flatMap pastSign = (afterSign? s).toList := by
  induction s with
  | nil => rfl
  | cons c s ih =>
    rw [pastBlanks_cons]
    by_cases hc : isBlank c = true
    · have hsign : pastSign (c :: s) = [] := by
        have hne : c ≠ '=' := by
          rintro rfl
          simp [isBlank_equals] at hc
        simp [pastSign, hne]
      have hafter : afterSign? (c :: s) = afterSign? s := by simp [afterSign?, trimLeft_cons, hc]
      simp [hc, ih, hsign, hafter]
    · have hafter : pastSign (c :: s) = (afterSign? (c :: s)).toList := by
        by_cases hsign : c = '='
        · simp [hsign, pastSign, afterSign?_sign]
        · simp [hsign, pastSign, afterSign?, trimLeft_cons, hc]
      simp [hc, hafter]

theorem readingsAt_eq (s : List Char) :
    readingsAt s = (attributesAt s).flatMap fun (name, rest) => (followers rest).map (name, ·) := by
  rw [attributesAt, List.flatMap_assoc]
  apply List.flatMap_congr
  rintro ⟨name, rest⟩ -
  simp only [pastBlanks_flatMap_pastSign]
  cases afterSign? rest <;> simp

theorem readings_eq (s : List Char) :
    readings s = (attributes s).flatMap fun (name, rest) => (followers rest).map (name, ·) := by
  rw [readings, attributes, List.flatMap_assoc]
  exact List.flatMap_congr fun u _ => readingsAt_eq u

theorem starts_eq_cons (passes : Char → Bool) (s : List Char) :
    starts passes s = ([], s) :: (starts passes s).tail := by
  cases s <;> rfl

theorem attributesAt_cons (hc : c ≠ '\n') (s : List Char) :
    attributesAt (c :: s) = (afterSign? s).toList.map ([c], ·) ++
      (attributesAt s).map fun (name, rest) => (c :: name, rest) := by
  have hstarts : (starts inLine (c :: s)).tail =
      ([c], s) :: (starts inLine s).tail.map fun (start, rest) => (c :: start, rest) := by
    rw [starts, List.tail_cons, if_pos (by simpa [inLine] using hc), starts_eq_cons]
    rfl
  rw [attributesAt, hstarts, List.flatMap_cons, attributesAt, List.flatMap_map, List.map_flatMap]
  congr 1
  apply List.flatMap_congr
  rintro ⟨name, rest⟩ -
  simp

theorem head?_attributesAt (s : List Char) : (attributesAt s).head? = leadingAttribute? s := by
  induction s with
  | nil => rfl
  | cons c s ih =>
    by_cases hc : c = '\n'
    · simp [attributesAt, starts, inLine, leadingAttribute?, hc]
    · rw [attributesAt_cons hc, leadingAttribute?, if_neg hc, ← ih]
      cases afterSign? s with
      | some rest => rfl
      | none => simp

theorem attributes_cons (c : Char) (s : List Char) :
    attributes (c :: s) = attributesAt (c :: s) ++ attributes s := by
  simp [attributes]

theorem head?_attributes (s : List Char) : (attributes s).head? = findAttribute? s := by
  induction s with
  | nil => rfl
  | cons c s ih =>
    rw [attributes_cons, List.head?_append, head?_attributesAt, ih, findAttribute?]
    cases leadingAttribute? (c :: s) <;> rfl

theorem eq_append_of_mem_starts (h : (start, rest) ∈ starts passes s) : s = start ++ rest := by
  induction s generalizing start with
  | nil =>
    simp only [starts, List.mem_singleton, Prod.mk.injEq] at h
    rw [h.1, h.2, List.append_nil]
  | cons c s ih =>
    simp only [starts, List.mem_cons, Prod.mk.injEq] at h
    rcases h with ⟨rfl, rfl⟩ | h
    · rfl
    · by_cases hc : passes c = true
      · rw [if_pos hc, List.mem_map] at h
        obtain ⟨⟨start', rest'⟩, hmem, heq⟩ := h
        cases heq
        rw [List.cons_append, ← ih hmem]
      · simp [hc] at h

/-- How many characters of a text are not blank. -/
def solidCount (s : List Char) : Nat := s.countP fun c => !isBlank c

theorem solidCount_eq_zero_iff : solidCount s = 0 ↔ AllBlank s := by
  simp [solidCount, List.countP_eq_zero, AllBlank]

theorem solidCount_of_afterSign? (h : afterSign? s = some rest) :
    solidCount s = solidCount rest + 1 := by
  induction s with
  | nil => simp [afterSign?] at h
  | cons c s ih =>
    by_cases hc : isBlank c = true
    · have h : afterSign? s = some rest := by simpa [afterSign?, trimLeft_cons, hc] using h
      rw [← ih h]
      simp [solidCount, hc]
    · by_cases hsign : c = '='
      · rw [hsign, afterSign?_sign, Option.some.injEq] at h
        rw [hsign, h]
        simp [solidCount, isBlank_equals]
      · simp [afterSign?, trimLeft_cons, hc, hsign] at h

theorem attributes_eq_append (s : List Char) : ∃ more, attributes s = attributesAt s ++ more := by
  cases s with
  | nil => exact ⟨[], rfl⟩
  | cons c s => exact ⟨attributes s, attributes_cons c s⟩

theorem exists_suffix_of_mem_attributesAt {found : List Char × List Char}
    (h : found ∈ attributesAt (c :: s)) : ∃ u, u <:+ s ∧ afterSign? u = some found.2 := by
  simp only [attributesAt, starts, List.tail_cons, List.mem_flatMap, List.mem_map,
    Option.mem_toList] at h
  obtain ⟨⟨name, u⟩, hmem, rest, hrest, rfl⟩ := h
  refine ⟨u, ?_, hrest⟩
  by_cases hc : inLine c = true
  · rw [if_pos hc, List.mem_map] at hmem
    obtain ⟨⟨start, u'⟩, hmem, heq⟩ := hmem
    cases heq
    exact ⟨start, (eq_append_of_mem_starts hmem).symm⟩
  · simp [hc] at hmem

theorem exists_suffix_of_mem_attributes {found : List Char × List Char}
    (h : found ∈ attributes (c :: s)) : ∃ u, u <:+ s ∧ afterSign? u = some found.2 := by
  induction s generalizing c with
  | nil =>
    rw [attributes_cons, List.mem_append] at h
    rcases h with h | h
    · exact exists_suffix_of_mem_attributesAt h
    · cases h
  | cons d s ih =>
    rw [attributes_cons, List.mem_append] at h
    rcases h with h | h
    · exact exists_suffix_of_mem_attributesAt h
    · obtain ⟨u, hu, hsign⟩ := ih h
      exact ⟨u, hu.trans (List.suffix_cons d s), hsign⟩

/-- Where the first sign after the first character is followed by blanks alone, so is every sign. -/
theorem allBlank_of_sign (hsign : afterSign? s = some rest) (hblank : AllBlank rest) :
    ∀ found ∈ attributes (c :: s), AllBlank found.2 := by
  intro found hfound
  obtain ⟨u, hu, hafter⟩ := exists_suffix_of_mem_attributes hfound
  have hcount : solidCount u ≤ solidCount s := hu.sublist.countP_le
  rw [solidCount_of_afterSign? hafter, solidCount_of_afterSign? hsign,
    solidCount_eq_zero_iff.2 hblank] at hcount
  exact solidCount_eq_zero_iff.1 (by omega)

/-- Where the sign after the first attribute is followed by blanks alone, no other one is followed
by more. -/
theorem allBlank_of_mem_attributes {found : List Char × List Char}
    (hfound : (attributes s).head? = some found) (hblank : AllBlank found.2) :
    ∀ other ∈ attributes s, AllBlank other.2 := by
  induction s generalizing found with
  | nil => cases hfound
  | cons c s ih =>
    by_cases hc : c = '\n'
    · have hnone : attributesAt (c :: s) = [] := by simp [attributesAt, starts, inLine, hc]
      rw [attributes_cons, hnone, List.nil_append] at hfound ⊢
      exact ih hfound hblank
    · cases hsign : afterSign? s with
      | some rest =>
        rw [attributes_cons, attributesAt_cons hc, hsign] at hfound
        cases hfound
        exact allBlank_of_sign hsign hblank
      | none =>
        -- what starts here starts one character later, too
        have hhere : attributesAt (c :: s) =
            (attributesAt s).map fun (name, rest) => (c :: name, rest) := by
          rw [attributesAt_cons hc, hsign]
          rfl
        obtain ⟨more, hmore⟩ := attributes_eq_append s
        have hlater : ∀ other ∈ attributes s, AllBlank other.2 := by
          rw [attributes_cons, hhere] at hfound
          cases hat : attributesAt s with
          | nil =>
            rw [hat] at hfound
            exact ih hfound hblank
          | cons first others =>
            rw [hat] at hfound
            cases hfound
            have hfirst : (attributes s).head? = some first := by
              rw [hmore, hat]
              rfl
            exact ih hfirst hblank
        intro other hother
        rw [attributes_cons, hhere, List.mem_append, List.mem_map] at hother
        rcases hother with ⟨found', hmem, rfl⟩ | hother
        · exact hlater found' (by rw [hmore]; exact List.mem_append_left more hmem)
        · exact hlater other hother

theorem getLast?_starts (passes : Char → Bool) (s : List Char) :
    (starts passes s).getLast? = some (s.takeWhile passes, s.dropWhile passes) := by
  induction s with
  | nil => rfl
  | cons c s ih =>
    by_cases hc : passes c = true
    · simp [starts, hc, List.getLast?_cons, ih]
    · simp [starts, hc]

theorem head?_values (h : inLine c = true) (s : List Char) :
    (values (c :: s)).head? = some ((c :: s).takeWhile inLine) := by
  simp [values, starts, h, getLast?_starts]

theorem head?_followers (h : ¬AllBlank s) :
    (followers s).head? = some ((trimLeft s).takeWhile inLine) := by
  induction s with
  | nil => exact absurd allBlank_nil h
  | cons c s ih =>
    rw [followers, pastBlanks_cons, trimLeft_cons]
    by_cases hc : isBlank c = true
    · have hs : ¬AllBlank s := fun hs => h (allBlank_cons.2 ⟨hc, hs⟩)
      have ih := ih hs
      rw [followers] at ih
      simp [hc, ih]
    · have hline : inLine c = true := by
        have hne : c ≠ '\n' := by
          rintro rfl
          exact hc isBlank_newline
        simpa [inLine] using hne
      simp [hc, head?_values hline]

theorem allBlank_of_mem_followers (h : AllBlank s) (hv : value ∈ followers s) :
    AllBlank value := by
  intro c hc
  apply h
  simp only [followers, pastBlanks, values, List.mem_flatMap, List.mem_map, List.mem_reverse] at hv
  obtain ⟨_, ⟨⟨start, rest⟩, hblanks, rfl⟩, ⟨value', after⟩, hmem, rfl⟩ := hv
  have hrest := eq_append_of_mem_starts (List.mem_of_mem_tail hmem)
  rw [eq_append_of_mem_starts hblanks]
  simp_all

/-- The condition is what the first reading makes of the text. -/
theorem parse?_eq_firstReading (text : String) :
    parse? text = (readings text.toList).head?.bind fun (name, value) => ofParts? name value := by
  have hreadings := readings_eq text.toList
  have hfind := head?_attributes text.toList
  cases hattributes : attributes text.toList with
  | nil =>
    rw [hattributes] at hreadings hfind
    rw [parse?_eq, ← hfind, hreadings]
    rfl
  | cons first others =>
    obtain ⟨name, rest⟩ := first
    rw [hattributes, List.head?_cons] at hfind
    rw [parse?_of_found hfind.symm]
    by_cases hblank : AllBlank rest
    · -- backing out of the blanks finds values, but blank ones only
      have hvalue : (trimLeft rest).takeWhile (· ≠ '\n') = [] := by
        rw [trimLeft_eq_nil_iff.2 hblank, List.takeWhile_nil]
      rw [hvalue, ofParts?_eq_none_iff.2 (.inr allBlank_nil)]
      cases hhead : (readings text.toList).head? with
      | none => rfl
      | some reading =>
        have hmem := List.mem_of_head? hhead
        rw [hreadings, List.mem_flatMap] at hmem
        obtain ⟨other, hother, hreading⟩ := hmem
        obtain ⟨value, hvalue, rfl⟩ := List.mem_map.1 hreading
        have hfirst : (attributes text.toList).head? = some (name, rest) := by
          rw [hattributes]
          rfl
        have hall := allBlank_of_mem_attributes hfirst hblank
        have hblankValue := allBlank_of_mem_followers (hall other hother) hvalue
        exact (ofParts?_eq_none_iff.2 (.inr hblankValue)).symm
    · rw [hreadings, hattributes, List.flatMap_cons, List.head?_append, List.head?_map,
        head?_followers hblank]
      rfl

end Readings

section Language

variable {t : List Char} {text : String} {s p k v e : Nat} {x : Char}

theorem allBlank_line_iff {rest : List Char} :
    AllBlank ((trimLeft rest).takeWhile (· ≠ '\n')) ↔ AllBlank rest := by
  cases hrest : trimLeft rest with
  | nil => exact iff_of_true allBlank_nil (trimLeft_eq_nil_iff.1 hrest)
  | cons c s =>
    have hc : isBlank c = false := head_trimLeft rest hrest
    have hne : c ≠ '\n' := by
      rintro rfl
      simp [isBlank_newline] at hc
    apply iff_of_false
    · simp [hne, allBlank_cons, hc]
    · rw [← trimLeft_eq_nil_iff, hrest]
      simp

/-- A value starts with the first character after the sign that is not blank. -/
theorem FirstSolid.line_eq (h : FirstSolid t p v x) (he : LineEndsAt t v e) :
    (trimLeft (t.drop p)).takeWhile (· ≠ '\n') = t.extract v e := by
  rw [h.trimLeft_eq, ← drop_eq_cons h.char, he.takeWhile_eq]

theorem FirstNamedAt.parse?_eq (h : FirstNamedAt text.toList s p k) :
    parse? text = ofParts? (text.toList.extract s p)
      ((trimLeft (text.toList.drop (k + 1))).takeWhile (· ≠ '\n')) :=
  parse?_of_found h.findAttribute?_eq

theorem parse?_eq_none_iff :
    parse? text = none ↔
      (∀ s p k, ¬NamedAt text.toList s p k) ∨
        ∃ s p k, FirstNamedAt text.toList s p k ∧
          (AllBlank (text.toList.extract s p) ∨ AllBlank (text.toList.drop (k + 1))) := by
  constructor
  · intro hnone
    by_cases hfind : findAttribute? text.toList = none
    · exact .inl (findAttribute?_eq_none_iff.1 hfind)
    · obtain ⟨s, p, k, h⟩ := exists_firstNamedAt hfind
      rw [h.parse?_eq, ofParts?_eq_none_iff, allBlank_line_iff] at hnone
      exact .inr ⟨s, p, k, h, hnone⟩
  · rintro (hnot | ⟨s, p, k, h, hblank⟩)
    · rw [Condition.parse?_eq, findAttribute?_eq_none_iff.2 hnot]
      rfl
    · rwa [h.parse?_eq, ofParts?_eq_none_iff, allBlank_line_iff]

theorem parse?_eq_some_iff {c : Condition} :
    parse? text = some c ↔
      ∃ s p k v e x, FirstNamedAt text.toList s p k ∧ ¬AllBlank (text.toList.extract s p) ∧
        FirstSolid text.toList (k + 1) v x ∧ LineEndsAt text.toList v e ∧
        c = ⟨String.ofList (trim (text.toList.extract s p)),
          .ofText (String.ofList (trim (text.toList.extract v e)))⟩ := by
  constructor
  · intro hsome
    have hfind : findAttribute? text.toList ≠ none := by
      intro hnone
      rw [Condition.parse?_eq, hnone] at hsome
      cases hsome
    obtain ⟨s, p, k, h⟩ := exists_firstNamedAt hfind
    rw [h.parse?_eq, ofParts?_eq_some_iff] at hsome
    obtain ⟨hname, hvalue, rfl⟩ := hsome
    rw [allBlank_line_iff, ← trimLeft_eq_nil_iff] at hvalue
    obtain ⟨x, rest, hrest⟩ := List.exists_cons_of_ne_nil hvalue
    obtain ⟨v, hv, -⟩ := exists_firstSolid hrest
    obtain ⟨hlt, -⟩ := List.getElem?_eq_some_iff.1 hv.char
    obtain ⟨e, he⟩ := exists_lineEndsAt hlt.le
    refine ⟨s, p, k, v, e, x, h, hname, hv, he, ?_⟩
    rw [hv.line_eq he]
  · rintro ⟨s, p, k, v, e, x, h, hname, hv, he, rfl⟩
    have hvalue : ¬AllBlank (text.toList.drop (k + 1)) := by
      rw [← trimLeft_eq_nil_iff, hv.trimLeft_eq]
      simp
    rw [← allBlank_line_iff] at hvalue
    rw [h.parse?_eq, ofParts?_eq_some_iff, ← hv.line_eq he]
    exact ⟨hname, hvalue, rfl⟩

/-- The condition of a text is the first reading by the pattern, if neither its name nor its value
is blank.  Its name is the first piece of one line that an equality sign follows, blanks aside, and
its value starts with the next character that is not blank and goes on to the end of that line. -/
theorem condition_follows_pattern (text : String) :
    (parse? text =
        (readings text.toList).head?.bind fun (name, value) => ofParts? name value) ∧
      (parse? text = none ↔
        (∀ s p k, ¬NamedAt text.toList s p k) ∨
          ∃ s p k, FirstNamedAt text.toList s p k ∧
            (AllBlank (text.toList.extract s p) ∨ AllBlank (text.toList.drop (k + 1)))) ∧
      ∀ c, parse? text = some c ↔
        ∃ s p k v e x, FirstNamedAt text.toList s p k ∧ ¬AllBlank (text.toList.extract s p) ∧
          FirstSolid text.toList (k + 1) v x ∧ LineEndsAt text.toList v e ∧
          c = ⟨String.ofList (trim (text.toList.extract s p)),
            .ofText (String.ofList (trim (text.toList.extract v e)))⟩ :=
  ⟨parse?_eq_firstReading text, parse?_eq_none_iff, fun _ => parse?_eq_some_iff⟩

end Language

end FlowDiagram.Condition
