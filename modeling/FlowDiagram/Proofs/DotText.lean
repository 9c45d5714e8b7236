import FlowDiagram.Dot.Statement
import FlowDiagram.Dot.Text
import Mathlib.Data.List.Basic

/-! # Reading DOT

A quoted text is read up to its own end if no double mark stands alone in it, and markup if its angle
brackets balance, whatever else they hold.  Names that are escaped, or written as markup, are such
texts, so none of them ends early.  The tokens of a statement are read as that statement, and pieces
that are read alone are read one after another.
-/

namespace FlowDiagram.Dot

/-- The text has no double marks and no backslashes. -/
def Unmarked (s : String) : Prop := ∀ c ∈ s.toList, c ≠ '"' ∧ c ≠ '\\'

instance (s : String) : Decidable (Unmarked s) :=
  List.decidableBAll (fun c => c ≠ '"' ∧ c ≠ '\\') s.toList

/-- The text has no angle brackets. -/
def Unbracketed (s : String) : Prop := ∀ c ∈ s.toList, c ≠ '<' ∧ c ≠ '>'

instance (s : String) : Decidable (Unbracketed s) :=
  List.decidableBAll (fun c => c ≠ '<' ∧ c ≠ '>') s.toList

/-- In the text no double mark and no backslash stands that no backslash takes. -/
inductive Quotable : List Char → Prop where
  | nil : Quotable []
  | char {c : Char} {s : List Char} : c ≠ '"' → c ≠ '\\' → Quotable s → Quotable (c :: s)
  | taken {c : Char} {s : List Char} : Quotable s → Quotable ('\\' :: c :: s)

/-- Each angle bracket of the text is closed, or closes one. -/
inductive Balanced : List Char → Prop where
  | nil : Balanced []
  | char {c : Char} {s : List Char} : c ≠ '<' → c ≠ '>' → Balanced s → Balanced (c :: s)
  | tag {s r : List Char} : Balanced s → Balanced r → Balanced ('<' :: s ++ '>' :: r)

/-- From one point to another the text is read as the tokens. -/
def Scans (begun : Partial) (s : String) (tokens : List Token) (begun' : Partial) : Prop :=
  lexer.Takes begun s.toList tokens begun'

theorem Scans.append {begun begun' begun'' : Partial} {s t : String} {ts us : List Token}
    (hs : Scans begun s ts begun') (ht : Scans begun' t us begun'') :
    Scans begun (s ++ t) (ts ++ us) begun'' := by
  rw [Scans, String.toList_append]
  exact Transducer.Takes.append hs ht

section Quoting

theorem Quotable.append {s t : List Char} (hs : Quotable s) (ht : Quotable t) :
    Quotable (s ++ t) := by
  induction hs with
  | nil => exact ht
  | char hquote hslash _ ih => exact .char hquote hslash ih
  | taken _ ih => exact .taken ih

theorem quotable_of_forall {s : List Char} (h : ∀ c ∈ s, c ≠ '"' ∧ c ≠ '\\') : Quotable s := by
  induction s with
  | nil => exact .nil
  | cons c s ih =>
    obtain ⟨hquote, hslash⟩ := h c (by simp)
    exact .char hquote hslash (ih fun d hd => h d (by simp [hd]))

theorem Unmarked.append {s t : String} (hs : Unmarked s) (ht : Unmarked t) : Unmarked (s ++ t) := by
  intro c hc
  rw [String.toList_append, List.mem_append] at hc
  exact hc.elim (hs c) (ht c)

theorem Unmarked.quotable {s : String} (h : Unmarked s) : Quotable s.toList := quotable_of_forall h

theorem quotable_escaped (s : String) : Quotable (escaped s).toList := by
  rw [escaped, String.toList_ofList]
  induction s.toList with
  | nil => exact .nil
  | cons c s ih =>
    rw [List.flatMap_cons, escapedChar]
    split
    · exact .taken ih
    · next hc =>
      simp only [Bool.or_eq_true, decide_eq_true_eq, not_or] at hc
      exact .char hc.1 hc.2 ih

/-- A name after a start that needs no escape. -/
theorem Unmarked.quotable_name {start : String} (h : Unmarked start) (name : String) :
    Quotable (start ++ escaped name).toList := by
  rw [String.toList_append]
  exact h.quotable.append (quotable_escaped name)

/-- Reading within quotes goes on over a quotable text. -/
theorem Quotable.takes {s : List Char} (h : Quotable s) (text : List Char) :
    lexer.Takes (.quoted text) s [] (.quoted (text ++ s)) := by
  induction h generalizing text with
  | nil => rw [List.append_nil]; exact Transducer.takes_nil
  | @char c s hquote hslash _ ih =>
    have hstep : lexer.step (.quoted text) c = some ([], .quoted (text ++ [c])) := by
      simp [lexer, readChar, hquote, hslash]
    simpa using Transducer.Takes.cons hstep (ih (text ++ [c]))
  | @taken c s _ ih =>
    have hstep : lexer.step (.quoted text) '\\' = some ([], .backslash text) := rfl
    have hstep' : lexer.step (.backslash text) c = some ([], .quoted (text ++ ['\\', c])) := rfl
    simpa using Transducer.Takes.cons hstep (Transducer.Takes.cons hstep' (ih (text ++ ['\\', c])))

/-- A quotable text between marks is read as one token. -/
theorem scans_quoted {s : String} (h : Quotable s.toList) :
    Scans .outside (quoted s) [.id (.quoted s)] .outside := by
  have hopen : Scans .outside "\"" [] (.quoted []) := by rfl
  have hinner : Scans (.quoted []) s [] (.quoted s.toList) := h.takes []
  have hclose : Scans (.quoted s.toList) "\""
      [.id (.quoted (String.ofList s.toList))] .outside := by rfl
  rw [String.ofList_toList] at hclose
  exact (hopen.append hinner).append hclose

theorem takenChars_cons {c : Char} (h : c ≠ '\\') (s : List Char) :
    takenChars (c :: s) = c :: takenChars s := by
  rw [takenChars]
  rintro _ _ hc -
  exact h hc

theorem takenChars_escaped (s : List Char) : takenChars (s.flatMap escapedChar) = s := by
  induction s with
  | nil => rfl
  | cons c s ih =>
    rw [List.flatMap_cons, escapedChar]
    split
    · simp [takenChars, ih]
    · next hc =>
      simp only [Bool.or_eq_true, decide_eq_true_eq, not_or] at hc
      rw [List.singleton_append, takenChars_cons hc.2, ih]

theorem takenChars_of_forall {s : List Char} (h : ∀ c ∈ s, c ≠ '\\') : takenChars s = s := by
  induction s with
  | nil => rfl
  | cons c s ih => rw [takenChars_cons (h c (by simp)), ih fun d hd => h d (by simp [hd])]

/-- A name that is escaped comes back. -/
theorem nameAfter?_escaped (start name : String) :
    nameAfter? start (start ++ escaped name) = some name := by
  rw [nameAfter?, String.toList_append, if_pos (by simp), List.drop_left, escaped,
    String.toList_ofList, takenChars_escaped, String.ofList_toList]

theorem quoted_injective : Function.Injective quoted := by
  intro s t h
  have hlists := congrArg String.toList h
  simp only [quoted, String.toList_append, List.append_cancel_left_eq,
    List.append_cancel_right_eq] at hlists
  exact String.toList_inj.1 hlists

/-- Escaped names of one sort are the same only if the names are. -/
theorem quoted_escaped_injective (start : String) :
    Function.Injective fun name => quoted (start ++ escaped name) := by
  intro x y h
  have hnames := congrArg (nameAfter? start) (quoted_injective h)
  rwa [nameAfter?_escaped, nameAfter?_escaped, Option.some.injEq] at hnames

theorem Unmarked.nameAfter? {s : String} (h : Unmarked s) : nameAfter? "" s = some s := by
  have hstart : "".toList.isPrefixOf s.toList = true := rfl
  have hdrop : s.toList.drop "".toList.length = s.toList := rfl
  rw [Dot.nameAfter?, if_pos hstart, hdrop, takenChars_of_forall fun c hc => (h c hc).2,
    String.ofList_toList]

end Quoting

section Markup

theorem Balanced.append {s t : List Char} (hs : Balanced s) (ht : Balanced t) :
    Balanced (s ++ t) := by
  induction hs with
  | nil => exact ht
  | char hopen hclose _ ih => exact .char hopen hclose ih
  | tag hs _ _ ih =>
    rw [List.append_assoc, List.cons_append]
    exact .tag hs ih

theorem balanced_of_forall {s : List Char} (h : ∀ c ∈ s, c ≠ '<' ∧ c ≠ '>') : Balanced s := by
  induction s with
  | nil => exact .nil
  | cons c s ih =>
    obtain ⟨hopen, hclose⟩ := h c (by simp)
    exact .char hopen hclose (ih fun d hd => h d (by simp [hd]))

theorem Unbracketed.balanced {s : String} (h : Unbracketed s) : Balanced s.toList :=
  balanced_of_forall h

theorem balanced_tag {s : String} (h : Unbracketed s) : Balanced ("<" ++ s ++ ">").toList := by
  rw [String.toList_append, String.toList_append]
  exact .tag h.balanced .nil

/-- A name in markup has no angle brackets of its own. -/
theorem unbracketed_markup (s : String) : Unbracketed (markup s) := by
  intro c hc
  rw [markup, String.toList_ofList, List.mem_flatMap] at hc
  obtain ⟨d, -, hc⟩ := hc
  unfold markupChar at hc
  split_ifs at hc with hamp hopen hclose
  · revert c
    simp
  · revert c
    simp
  · revert c
    simp
  · rw [List.mem_singleton] at hc
    exact hc ▸ ⟨hopen, hclose⟩

theorem balanced_intercalate {sep : String} {parts : List String} (hsep : Balanced sep.toList)
    (h : ∀ s ∈ parts, Balanced s.toList) : Balanced (sep.intercalate parts).toList := by
  induction parts with
  | nil => exact .nil
  | cons s parts ih =>
    cases parts with
    | nil => simpa using h s (by simp)
    | cons t parts =>
      rw [String.intercalate_cons_cons, String.toList_append, String.toList_append]
      exact ((h s (by simp)).append hsep).append (ih fun u hu => h u (by simp [hu]))

/-- Reading within angle brackets goes on over a balanced text, at the same depth. -/
theorem Balanced.takes {s : List Char} (h : Balanced s) (depth : Nat) (text : List Char) :
    lexer.Takes (.markup depth text) s [] (.markup depth (text ++ s)) := by
  induction h generalizing depth text with
  | nil =>
    rw [List.append_nil]
    exact Transducer.takes_nil
  | @char c s hopen hclose _ ih =>
    have hstep : lexer.step (.markup depth text) c = some ([], .markup depth (text ++ [c])) := by
      simp [lexer, readChar, hopen, hclose]
    simpa using Transducer.Takes.cons hstep (ih depth (text ++ [c]))
  | @tag s r _ _ ihs ihr =>
    -- what is inside is read one level deeper, so that the bracket after it closes this tag only
    have hopen : lexer.step (.markup depth text) '<' =
        some ([], .markup (depth + 1) (text ++ ['<'])) := rfl
    have hclose : ∀ t, lexer.step (.markup (depth + 1) t) '>' =
        some ([], .markup depth (t ++ ['>'])) := fun _ => rfl
    have hinner := Transducer.Takes.cons hopen (ihs (depth + 1) (text ++ ['<']))
    simpa using hinner.append (Transducer.Takes.cons (hclose _) (ihr depth _))

/-- Balanced text between angle brackets is read as it is, up to the closing one. -/
theorem scans_balanced {s : String} (h : Balanced s.toList) :
    Scans (.markup 0 []) s [] (.markup 0 s.toList) := by
  have htakes := h.takes 0 []
  rw [List.nil_append] at htakes
  exact htakes

end Markup

section Words

/-- The text is a word. -/
structure IsWord (s : String) : Prop where
  nonempty : s ≠ ""
  chars : s.toList.all isWordChar = true

theorem isBlank_of_isWordChar {c : Char} (h : isWordChar c = true) : isBlank c = false := by
  rw [Bool.eq_false_iff]
  intro hblank
  simp only [isBlank, Bool.or_eq_true, decide_eq_true_eq] at hblank
  rcases hblank with ((rfl | rfl) | rfl) | rfl <;> exact absurd h (by decide)

theorem takes_wordChars {s : List Char} (h : ∀ c ∈ s, isWordChar c = true) (text : List Char) :
    lexer.Takes (.word text) s [] (.word (text ++ s)) := by
  induction s generalizing text with
  | nil =>
    rw [List.append_nil]
    exact Transducer.takes_nil
  | cons c s ih =>
    have hstep : lexer.step (.word text) c = some ([], .word (text ++ [c])) :=
      if_pos (h c (by simp))
    simpa using Transducer.Takes.cons hstep (ih (fun d hd => h d (by simp [hd])) (text ++ [c]))

/-- A word is read until what follows it shows that it has ended. -/
theorem IsWord.scans {s : String} (h : IsWord s) : Scans .outside s [] (.word s.toList) := by
  obtain ⟨c, t, hs⟩ := List.exists_cons_of_ne_nil (mt String.toList_eq_nil_iff.1 h.nonempty)
  have hchars := List.all_eq_true.1 h.chars
  rw [hs] at hchars
  have hc := hchars c (by simp)
  have hstep : lexer.step .outside c = some ([], .word [c]) := by
    simp [lexer, readChar, beginToken, isBlank_of_isWordChar hc, hc]
  rw [Scans, hs]
  exact .cons hstep (takes_wordChars (fun d hd => hchars d (by simp [hd])) [c])

end Words

section Lines

/-- Each line by itself is read as tokens, and these together are the tokens. -/
inductive Lexed : List String → List Token → Prop where
  | nil : Lexed [] []
  | cons {line : String} {lines : List String} {ts us : List Token} :
      Scans .outside line ts .outside → Lexed lines us → Lexed (line :: lines) (ts ++ us)

variable {lines lines' : List String} {ts us : List Token}

theorem lexed_line {line : String} (h : Scans .outside line ts .outside) : Lexed [line] ts := by
  simpa using Lexed.cons h .nil

theorem Lexed.append (h : Lexed lines ts) (h' : Lexed lines' us) :
    Lexed (lines ++ lines') (ts ++ us) := by
  induction h with
  | nil => exact h'
  | cons hline _ ih =>
    rw [List.cons_append, List.append_assoc]
    exact .cons hline ih

theorem lexed_flatMap {α : Type} {linesOf : α → List String} {tokensOf : α → List Token}
    (items : List α) (h : ∀ i ∈ items, Lexed (linesOf i) (tokensOf i)) :
    Lexed (items.flatMap linesOf) (items.flatMap tokensOf) := by
  induction items with
  | nil => exact .nil
  | cons i items ih =>
    rw [List.flatMap_cons, List.flatMap_cons]
    exact (h i (by simp)).append (ih fun j hj => h j (by simp [hj]))

theorem lexed_map {α : Type} {lineOf : α → String} {tokensOf : α → List Token} (items : List α)
    (h : ∀ i ∈ items, Scans .outside (lineOf i) (tokensOf i) .outside) :
    Lexed (items.map lineOf) (items.flatMap tokensOf) := by
  rw [List.map_eq_flatMap]
  exact lexed_flatMap items fun i hi => lexed_line (h i hi)

/-- Lines that are read one by one are read as a text. -/
theorem Lexed.scans (h : Lexed lines ts) : Scans .outside ("\n".intercalate lines) ts .outside := by
  induction h with
  | nil => exact Transducer.takes_nil
  | @cons line lines ts us hline hlines ih =>
    cases hlines with
    | nil =>
      rw [List.append_nil]
      simpa using hline
    | cons hline' hlines' =>
      have hfeed : Scans .outside "\n" [] .outside := by rfl
      rw [String.intercalate_cons_cons]
      simpa using (hline.append hfeed).append ih

end Lines

section Statements

/-- The tokens of attributes, up to the closing bracket. -/
def attributeTokens : Attributes → List Token
  | [] => [.closeBracket]
  | [(name, value)] => [.id (.word name), .equals, .id value, .closeBracket]
  | (name, value) :: rest =>
    .id (.word name) :: .equals :: .id value :: .comma :: attributeTokens rest

/-- The tokens of a statement. -/
def Statement.tokens : Statement → List Token
  | graph name => [.id (.word "strict"), .id (.word "digraph"), .id (.word name), .openBrace]
  | subgraph name => [.id (.word "subgraph"), .id (.quoted name), .openBrace]
  | close => [.closeBrace]
  | assign name value => [.id (.word name), .equals, .id value]
  | node id attributes =>
    .id (.quoted id) :: .openBracket :: attributeTokens attributes ++ [.semicolon]
  | edge source target attributes =>
    .id (.quoted source) :: .arrow :: .id (.quoted target) :: .openBracket ::
      attributeTokens attributes ++ [.semicolon]

/-- A node or an edge has some attributes. -/
def Statement.Attributed : Statement → Prop
  | node _ attributes => attributes ≠ []
  | edge _ _ attributes => attributes ≠ []
  | _ => True

theorem attributes?_tokens : (attributes : Attributes) → attributes ≠ [] →
    attributes? (attributeTokens attributes ++ [.semicolon]) = some attributes
  | [], h => absurd rfl h
  | [(_, _)], _ => rfl
  | (name, value) :: second :: rest, _ => by
    have ih := attributes?_tokens (second :: rest) (by simp)
    rw [attributeTokens, List.cons_append, List.cons_append, List.cons_append, List.cons_append,
      attributes?, ih]
    · rfl
    all_goals simp

/-- The token neither is a brace nor a semicolon. -/
def Token.Inner (t : Token) : Prop := t ≠ .openBrace ∧ t ≠ .closeBrace ∧ t ≠ .semicolon

instance (t : Token) : Decidable t.Inner := inferInstanceAs (Decidable (_ ∧ _))

theorem inner_of_mem_attributeTokens {t : Token} : (attributes : Attributes) →
    t ∈ attributeTokens attributes → t.Inner
  | [], h => by
    rw [attributeTokens, List.mem_singleton] at h
    exact h ▸ by decide
  | [(_, _)], h => by
    simp only [attributeTokens, List.mem_cons, List.not_mem_nil, or_false] at h
    rcases h with rfl | rfl | rfl | rfl <;> simp [Token.Inner]
  | (_, _) :: second :: rest, h => by
    simp only [attributeTokens, List.mem_cons] at h
    rcases h with rfl | rfl | rfl | rfl | h
    · simp [Token.Inner]
    · simp [Token.Inner]
    · simp [Token.Inner]
    · simp [Token.Inner]
    · exact inner_of_mem_attributeTokens (second :: rest) h

/-- What begins with an id and no sign of equality goes on until it ends with a mark of its own. -/
theorem takes_inner (first : Token) {second : Token} (hsecond : second ≠ .equals) {ts : List Token}
    (hts : ∀ t ∈ ts, t.Inner) (more : List Token) :
    statementReader.Takes (first :: second :: more) ts [] (first :: second :: more ++ ts) := by
  induction ts generalizing more with
  | nil =>
    rw [List.append_nil]
    exact Transducer.takes_nil
  | cons t ts ih =>
    obtain ⟨hopen, hclose, hsemicolon⟩ := hts t (by simp)
    -- an id and a sign of equality would end with the next id: they begin an attribute of the graph
    have hgoes : endsStatement (first :: second :: more) t = false := by
      unfold endsStatement
      split <;> simp_all
    have hstep : statementReader.step (first :: second :: more) t =
        some ([], first :: second :: more ++ [t]) := by
      simp [statementReader, readToken, hgoes]
    simpa using Transducer.Takes.cons hstep (ih (fun u hu => hts u (by simp [hu])) (more ++ [t]))

/-- A statement with attributes ends with the semicolon after them. -/
theorem takes_attributed {s : Statement} {first second : Token} (more : List Token)
    {attributes : Attributes} (hsecond : second ≠ .equals)
    (hbegin : statementReader.Takes [] (first :: second :: more) [] (first :: second :: more))
    (hread : Statement.ofTokens?
      (first :: second :: more ++ attributeTokens attributes ++ [.semicolon]) = some s) :
    statementReader.Takes []
      (first :: second :: more ++ attributeTokens attributes ++ [.semicolon]) [s] [] := by
  have hinner := takes_inner first hsecond
    (fun t ht => inner_of_mem_attributeTokens attributes ht) more
  have hends : endsStatement (first :: second :: more ++ attributeTokens attributes)
      .semicolon = true := rfl
  have hend : statementReader.step (first :: second :: more ++ attributeTokens attributes)
      .semicolon = some ([s], []) := by
    simp only [statementReader, readToken, hends, if_true, hread, Option.map_some]
  simpa using (hbegin.append hinner).append (.cons hend Transducer.takes_nil)

/-- The tokens of a statement are read as the statement. -/
theorem takes_tokens {s : Statement} (h : s.Attributed) :
    statementReader.Takes [] s.tokens [s] [] := by
  cases s with
  | graph name => rfl
  | subgraph name => rfl
  | close => rfl
  | assign name value => rfl
  | node id attributes =>
    refine takes_attributed [] (by decide) rfl ?_
    change (attributes? (attributeTokens attributes ++ [.semicolon])).map _ = _
    rw [attributes?_tokens attributes h, Option.map_some]
  | edge source target attributes =>
    refine takes_attributed [.id (.quoted target), .openBracket] (by decide) rfl ?_
    change (attributes? (attributeTokens attributes ++ [.semicolon])).map _ = _
    rw [attributes?_tokens attributes h, Option.map_some]

/-- A text that is read as the tokens of statements gives these statements. -/
theorem statements?_eq {text : String} {statements : List Statement}
    (h : Scans .outside text (statements.flatMap Statement.tokens) .outside)
    (hattributed : ∀ s ∈ statements, s.Attributed) : statements? text = some statements := by
  have htokens : tokens? text = some (statements.flatMap Statement.tokens) := by
    rw [tokens?, show lexer.run .outside text.toList = _ from h]
  have hread : statementReader.Takes [] (statements.flatMap Statement.tokens)
      (statements.flatMap fun s => [s]) [] :=
    Transducer.takes_flatMap statements fun s hs => takes_tokens (hattributed s hs)
  rw [List.flatMap_singleton'] at hread
  rw [statements?, htokens, Option.bind_some,
    show statementReader.run [] (statements.flatMap Statement.tokens) = _ from hread]

end Statements

end FlowDiagram.Dot
