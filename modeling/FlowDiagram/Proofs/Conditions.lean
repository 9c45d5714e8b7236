import FlowDiagram.Activity.Condition
import FlowDiagram.Proofs.Trimming
import Mathlib.Data.Option.Basic

/-! # Texts that state a condition

A name and a value that are written around an equality sign are read back, whatever blanks stand
around them and on whatever lines.  A text of one line is divided at the first equality sign after
its first character.  That is its first equality sign unless the text starts with one: such a text
should state nothing, as no name stands before the sign, but it does state a condition if a second
sign follows with more than blanks after it.
-/

namespace FlowDiagram.Condition

open Text

variable {c : Char} {s w name value rest : List Char}

/-- The condition that a name and a value state, unless one of them is blank. -/
def ofParts? (name value : List Char) : Option Condition :=
  if AllBlank name ∨ AllBlank value then none
  else some ⟨String.ofList (trim name), .ofText (String.ofList (trim value))⟩

theorem ofParts?_congr {name' value' : List Char} (hname : trim name = trim name')
    (hvalue : trim value = trim value') : ofParts? name value = ofParts? name' value' := by
  simp only [ofParts?, ← trim_eq_nil_iff, hname, hvalue]

theorem ofParts?_eq_none_iff : ofParts? name value = none ↔ AllBlank name ∨ AllBlank value := by
  rw [ofParts?]
  split
  · next h => exact iff_of_true rfl h
  · next h => exact iff_of_false nofun h

theorem ofParts?_eq_some_iff {c : Condition} :
    ofParts? name value = some c ↔ ¬AllBlank name ∧ ¬AllBlank value ∧
      c = ⟨String.ofList (trim name), .ofText (String.ofList (trim value))⟩ := by
  rw [ofParts?]
  split
  · next h =>
    apply iff_of_false nofun
    rintro ⟨hname, hvalue, -⟩
    exact h.elim hname hvalue
  · next h =>
    rw [not_or] at h
    simp [h.1, h.2, eq_comm]

theorem ofParts?_of_isTrimmed (hname : IsTrimmed name) (hvalue : IsTrimmed value) :
    ofParts? name value = some ⟨String.ofList name, .ofText (String.ofList value)⟩ := by
  simp [ofParts?, hname.not_allBlank, hvalue.not_allBlank, hname.trim_eq, hvalue.trim_eq]

theorem ofParts?_of_guard (name value : List Char) :
    (do
      guard (!(trim name).isEmpty && !(trim value).isEmpty)
      some (Condition.mk (String.ofList (trim name)) (.ofText (String.ofList (trim value))))) =
      ofParts? name value := by
  by_cases hname : trim name = []
  · rw [ofParts?, if_pos (.inl (trim_eq_nil_iff.1 hname)), hname]
    rfl
  · by_cases hvalue : trim value = []
    · rw [ofParts?, if_pos (.inr (trim_eq_nil_iff.1 hvalue)), hvalue, List.isEmpty_nil,
        Bool.not_true, Bool.and_false]
      rfl
    · simp [ofParts?, ← trim_eq_nil_iff, hname, hvalue]

/-- The name is read up to the sign, and the value in the line on which it starts. -/
theorem parse?_eq (text : String) :
    parse? text = (findAttribute? text.toList).bind fun (name, after) =>
      ofParts? name ((trimLeft after).takeWhile (· ≠ '\n')) := by
  unfold parse?
  cases findAttribute? text.toList with
  | none => rfl
  | some found => exact ofParts?_of_guard found.1 _

theorem parse?_of_found {text : String} (h : findAttribute? text.toList = some (name, rest)) :
    parse? text = ofParts? name ((trimLeft rest).takeWhile (· ≠ '\n')) := by
  rw [parse?_eq, h]
  rfl

section Signs

theorem no_sign_of_allBlank (h : AllBlank w) : '=' ∉ w := by
  intro hw
  simpa [isBlank_equals] using h '=' hw

theorem afterSign?_append_of_blank (h : AllBlank w) : afterSign? (w ++ s) = afterSign? s := by
  rw [afterSign?, trimLeft_append_of_blank h, afterSign?]

theorem afterSign?_sign (s : List Char) : afterSign? ('=' :: s) = some s := by
  simp [afterSign?, trimLeft_cons, isBlank_equals]

/-- No sign follows if another character than a blank stands before the first one. -/
theorem afterSign?_append (h : ¬AllBlank s) (hsign : '=' ∉ s) (rest : List Char) :
    afterSign? (s ++ rest) = none := by
  rw [afterSign?, trimLeft_append h]
  cases hs : trimLeft s with
  | nil => exact absurd (trimLeft_eq_nil_iff.1 hs) h
  | cons c t =>
    have hmem : c ∈ s := (List.dropWhile_suffix _).subset (hs ▸ List.mem_cons_self)
    have hc : c ≠ '=' := fun hc => hsign (hc ▸ hmem)
    simp [hc]

theorem afterSign?_of_no_sign (hsign : '=' ∉ s) : afterSign? s = none := by
  by_cases hs : AllBlank s
  · simp [afterSign?, trimLeft_eq_nil_iff.2 hs]
  · simpa using afterSign?_append hs hsign []

/-- An attribute ends where only blanks are left before the next sign. -/
theorem leadingAttribute?_cons_append (hline : '\n' ∉ c :: trimRight s) (hsign : '=' ∉ s)
    (rest : List Char) :
    leadingAttribute? (c :: (s ++ '=' :: rest)) = some (c :: trimRight s, rest) := by
  induction s generalizing c with
  | nil =>
    have hc : c ≠ '\n' := fun hc => hline (hc ▸ List.mem_cons_self)
    simp [leadingAttribute?, hc, afterSign?_sign, trimRight]
  | cons d s ih =>
    have hc : c ≠ '\n' := fun hc => hline (hc ▸ List.mem_cons_self)
    by_cases hblank : AllBlank (d :: s)
    · have hfound : afterSign? (d :: (s ++ '=' :: rest)) = some rest := by
        rw [← List.cons_append, afterSign?_append_of_blank hblank, afterSign?_sign]
      simp [leadingAttribute?, hc, hfound, trimRight_eq_nil_iff.2 hblank]
    · have hnone : afterSign? (d :: (s ++ '=' :: rest)) = none := by
        rw [← List.cons_append, afterSign?_append hblank hsign]
      rw [trimRight_cons hblank] at hline ⊢
      have hfound := ih (c := d) (fun hmem => hline (List.mem_cons_of_mem c hmem))
        (fun hmem => hsign (List.mem_cons_of_mem d hmem))
      simp [leadingAttribute?, hc, hnone, hfound]

theorem leadingAttribute?_of_blank_line (hw : AllBlank w) (hline : '\n' ∈ w)
    (hs : afterSign? s = none) : leadingAttribute? (w ++ s) = none := by
  induction w with
  | nil => simp at hline
  | cons b w ih =>
    have hblank := (allBlank_cons.1 hw).2
    by_cases hb : b = '\n'
    · simp [leadingAttribute?, hb]
    · have hrest : '\n' ∈ w := (List.mem_cons.1 hline).resolve_left (Ne.symm hb)
      have hnone : afterSign? (w ++ s) = none := by rw [afterSign?_append_of_blank hblank, hs]
      simp [leadingAttribute?, hb, hnone, ih hblank hrest]

theorem leadingAttribute?_append (hnil : name ≠ []) (hlast : trimRight name = name)
    (hline : '\n' ∉ name) (hsign : '=' ∉ name) (hw : AllBlank w) (rest : List Char) :
    leadingAttribute? (name ++ (w ++ '=' :: rest)) = some (name, rest) := by
  cases name with
  | nil => exact absurd rfl hnil
  | cons c s =>
    have hsolid : ¬AllBlank (c :: s) := by
      rw [← trimRight_eq_nil_iff, hlast]
      exact hnil
    have htrim : trimRight (s ++ w) = s := by
      rw [trimRight_append_of_blank hw]
      exact (List.cons.inj ((trimRight_cons hsolid).symm.trans hlast)).2
    have hfree : '=' ∉ s ++ w := by
      intro hmem
      rcases List.mem_append.1 hmem with hs | hs
      · exact hsign (List.mem_cons_of_mem c hs)
      · exact no_sign_of_allBlank hw hs
    rw [← htrim] at hline
    simpa [htrim] using leadingAttribute?_cons_append hline hfree rest

theorem findAttribute?_of_leadingAttribute? {found : List Char × List Char}
    (h : leadingAttribute? s = some found) : findAttribute? s = some found := by
  cases s with
  | nil => cases h
  | cons c s => rw [findAttribute?, h]

/-- Of the blanks before a name those on its line are found with it. -/
theorem findAttribute?_written {before : List Char} (hname : IsTrimmed name)
    (hsign : '=' ∉ name) (hline : '\n' ∉ name) (hbefore : AllBlank before) (hw : AllBlank w)
    (rest : List Char) :
    ∃ w', AllBlank w' ∧
      findAttribute? (before ++ (name ++ (w ++ '=' :: rest))) = some (w' ++ name, rest) := by
  induction before with
  | nil =>
    have hfound := leadingAttribute?_append hname.1 hname.trimRight_eq hline hsign hw rest
    exact ⟨[], allBlank_nil, findAttribute?_of_leadingAttribute? hfound⟩
  | cons b before ih =>
    by_cases hbreak : '\n' ∈ b :: before
    · obtain ⟨w', hw', hfound⟩ := ih (allBlank_cons.1 hbefore).2
      have hsolid : afterSign? (name ++ (w ++ '=' :: rest)) = none :=
        afterSign?_append hname.not_allBlank hsign (w ++ '=' :: rest)
      have hnone := leadingAttribute?_of_blank_line hbefore hbreak hsolid
      refine ⟨w', hw', ?_⟩
      rw [List.cons_append] at hnone ⊢
      rw [findAttribute?, hnone, hfound]
    · have hfree : '=' ∉ b :: before := no_sign_of_allBlank hbefore
      have hlast : trimRight (b :: before ++ name) = b :: before ++ name := by
        rw [trimRight_append hname.not_allBlank, hname.trimRight_eq]
      have hfound := leadingAttribute?_append (by simp) hlast
        (fun hmem => (List.mem_append.1 hmem).elim hbreak hline)
        (fun hmem => (List.mem_append.1 hmem).elim hfree hsign) hw rest
      refine ⟨b :: before, hbefore, ?_⟩
      rw [← List.append_assoc]
      exact findAttribute?_of_leadingAttribute? hfound

theorem leadingAttribute?_of_no_sign (hsign : '=' ∉ s) : leadingAttribute? (c :: s) = none := by
  induction s generalizing c with
  | nil => simp [leadingAttribute?, afterSign?]
  | cons d s ih =>
    have hrest := ih (c := d) fun hmem => hsign (List.mem_cons_of_mem d hmem)
    rw [leadingAttribute?, afterSign?_of_no_sign hsign, hrest]
    simp

theorem findAttribute?_of_no_sign (hsign : '=' ∉ s) : findAttribute? (c :: s) = none := by
  induction s generalizing c with
  | nil => simp [findAttribute?, leadingAttribute?, afterSign?]
  | cons d s ih =>
    rw [findAttribute?, leadingAttribute?_of_no_sign hsign]
    exact ih fun hmem => hsign (List.mem_cons_of_mem d hmem)

end Signs

section OneLine

/-- The condition that a text states if its first equality sign divides it. -/
def atFirstSign? (s : List Char) : Option Condition :=
  (splitFirst '=' s).bind fun (name, value) => ofParts? name value

/-- The condition that a text states if the first equality sign after its first character divides
it. -/
def pastFirst? : List Char → Option Condition
  | [] => none
  | c :: s => (splitFirst '=' s).bind fun (name, value) => ofParts? (c :: name) value

theorem parse?_of_parts {text : String} (htext : text.toList = c :: (name ++ '=' :: value))
    (hline : '\n' ∉ text.toList) (hsign : '=' ∉ name) :
    parse? text = ofParts? (c :: name) value := by
  obtain ⟨w, hw, hname⟩ := exists_eq_trimRight_append name
  have hname_line : '\n' ∉ c :: trimRight name := by
    have hstart : trimRight name <+: name := List.rdropWhile_prefix isBlank name
    intro hmem
    apply hline
    rw [htext]
    rcases List.mem_cons.1 hmem with hc | hs
    · exact List.mem_cons.2 (.inl hc)
    · exact List.mem_cons_of_mem c (List.mem_append_left _ (hstart.subset hs))
  have hvalue_line : '\n' ∉ trimLeft value := by
    intro hmem
    have hvalue : '\n' ∈ value := (List.dropWhile_suffix _).subset hmem
    simp [htext, hvalue] at hline
  have hvalue : (trimLeft value).takeWhile (· ≠ '\n') = trimLeft value := by
    simpa using takeWhile_ne_append hvalue_line []
  have hfound : findAttribute? text.toList = some (c :: trimRight name, value) := by
    rw [htext]
    exact findAttribute?_of_leadingAttribute?
      (leadingAttribute?_cons_append hname_line hsign value)
  rw [parse?_of_found hfound, hvalue]
  apply ofParts?_congr
  · have hsame : trim (c :: trimRight name ++ w) = trim (c :: trimRight name) :=
      trim_append_of_blank hw
    rw [← hsame, List.cons_append, ← hname]
  · exact trim_trimLeft value

theorem parse?_of_line {text : String} (hline : '\n' ∉ text.toList) :
    parse? text = pastFirst? text.toList := by
  cases htext : text.toList with
  | nil =>
    rw [parse?_eq, htext]
    rfl
  | cons c s =>
    rw [pastFirst?]
    cases hsplit : splitFirst '=' s with
    | none =>
      have hsign := splitFirst_eq_none_iff.1 hsplit
      rw [parse?_eq, htext, findAttribute?_of_no_sign hsign]
      rfl
    | some parts =>
      obtain ⟨hs, hsign⟩ := splitFirst_eq_some_iff.1 hsplit
      exact parse?_of_parts (hs ▸ htext) hline hsign

/-- A text starts with a sign, and more than blanks stand after the next one. -/
def SignTwice (s : List Char) : Prop :=
  ∃ between after, s = '=' :: (between ++ '=' :: after) ∧ '=' ∉ between ∧ ¬AllBlank after

theorem signTwice_cons_iff : SignTwice ('=' :: s) ↔
    ∃ name value, splitFirst '=' s = some (name, value) ∧ ¬AllBlank value := by
  simp [SignTwice, splitFirst_eq_some_iff, and_assoc]

theorem pastFirst?_eq_atFirstSign?_iff : pastFirst? s = atFirstSign? s ↔ ¬SignTwice s := by
  cases s with
  | nil => simp [pastFirst?, atFirstSign?, splitFirst, SignTwice]
  | cons c s =>
    by_cases hc : c = '='
    · -- no name stands before the first sign
      have hfirst : atFirstSign? (c :: s) = none := by
        simp [atFirstSign?, splitFirst, hc, ofParts?, allBlank_nil]
      rw [hfirst, hc, signTwice_cons_iff, pastFirst?]
      cases splitFirst '=' s with
      | none => simp
      | some parts =>
        obtain ⟨name, value⟩ := parts
        simp [ofParts?, allBlank_cons, isBlank_equals]
    · have hnot : ¬SignTwice (c :: s) := by
        rintro ⟨between, after, h, -⟩
        exact hc (List.cons.inj h).1
      apply iff_of_true _ hnot
      cases hsplit : splitFirst '=' s with
      | none => simp [pastFirst?, atFirstSign?, splitFirst, hc, hsplit]
      | some parts => simp [pastFirst?, atFirstSign?, splitFirst, hc, hsplit]

/-- The condition of a text of one line is read around the first equality sign after its first
character.  That is what its first equality sign makes of it, exactly unless it starts with one and
more than blanks stand after the next one. -/
theorem line_divides_at_first_sign_iff (text : String) (hline : '\n' ∉ text.toList) :
    parse? text = pastFirst? text.toList ∧
      (parse? text = atFirstSign? text.toList ↔ ¬SignTwice text.toList) := by
  have hparse := parse?_of_line hline
  rw [hparse]
  exact ⟨rfl, pastFirst?_eq_atFirstSign?_iff⟩

theorem doubled_sign_divides_once :
    ¬SignTwice " x == 1".toList ∧ parse? " x == 1" = atFirstSign? " x == 1".toList := by
  have hstart : ¬SignTwice " x == 1".toList := by
    rintro ⟨between, after, h, -⟩
    exact absurd (List.cons.inj h).1 (by decide)
  have hline : '\n' ∉ " x == 1".toList := by decide
  exact ⟨hstart, (line_divides_at_first_sign_iff " x == 1" hline).2.2 hstart⟩

/-- The first sign has no name before it, and is taken as the name before the second one. -/
theorem first_sign_becomes_name :
    parse? "== 5" = some ⟨"=", .text "5"⟩ ∧ atFirstSign? "== 5".toList = none := by
  decide +kernel

end OneLine

section Written

/-- Writing a name and a value around an equality sign states that condition, whatever blanks stand
around the two. -/
theorem written_condition_is_read {name value before beforeSign afterSign after : String}
    (hname : IsTrimmed name.toList) (hsign : '=' ∉ name.toList) (hnameLine : '\n' ∉ name.toList)
    (hvalue : IsTrimmed value.toList) (hvalueLine : '\n' ∉ value.toList)
    (hbefore : AllBlank before.toList) (hbeforeSign : AllBlank beforeSign.toList)
    (hafterSign : AllBlank afterSign.toList) (hafter : AllBlank after.toList) :
    parse? (before ++ name ++ beforeSign ++ "=" ++ afterSign ++ value ++ after) =
      some ⟨name, if value = "True" then .flag true
        else if value = "False" then .flag false else .text value⟩ := by
  obtain ⟨w, hw, hfound⟩ := findAttribute?_written hname hsign hnameLine hbefore hbeforeSign
    (afterSign.toList ++ (value.toList ++ after.toList))
  have htext : (before ++ name ++ beforeSign ++ "=" ++ afterSign ++ value ++ after).toList =
      before.toList ++ (name.toList ++ (beforeSign.toList ++
        '=' :: (afterSign.toList ++ (value.toList ++ after.toList)))) := by
    simp [String.toList_append]
  rw [← htext] at hfound
  have hrest : (trimLeft (afterSign.toList ++ (value.toList ++ after.toList))).takeWhile
      (· ≠ '\n') = value.toList ++ after.toList.takeWhile (· ≠ '\n') := by
    rw [trimLeft_append_of_blank hafterSign, trimLeft_append hvalue.not_allBlank,
      hvalue.trimLeft_eq, takeWhile_ne_append hvalueLine]
  have hblank : AllBlank (after.toList.takeWhile (· ≠ '\n')) := fun c hc =>
    hafter c ((List.takeWhile_prefix _).subset hc)
  calc
    parse? (before ++ name ++ beforeSign ++ "=" ++ afterSign ++ value ++ after) =
        ofParts? (w ++ name.toList)
          (value.toList ++ after.toList.takeWhile (· ≠ '\n')) := by
      rw [parse?_of_found hfound, hrest]
    _ = ofParts? name.toList value.toList :=
      ofParts?_congr (trim_of_blank_append hw) (trim_append_of_blank hblank)
    _ = some ⟨String.ofList name.toList, .ofText (String.ofList value.toList)⟩ :=
      ofParts?_of_isTrimmed hname hvalue
    _ = _ := by
      rw [String.ofList_toList, String.ofList_toList]
      rfl

/-- A name with a blank in it and a value with a sign, written over several lines. -/
theorem written_over_lines_is_read :
    parse? ("\n \t" ++ "is VIP" ++ " \n" ++ "=" ++ "\n\t" ++ "a = b" ++ " \n ") =
      some ⟨"is VIP", .text "a = b"⟩ :=
  written_condition_is_read (by decide) (by decide) (by decide) (by decide) (by decide) (by decide)
    (by decide) (by decide) (by decide)

end Written

end FlowDiagram.Condition
