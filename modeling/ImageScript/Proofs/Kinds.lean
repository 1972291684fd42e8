-- Kinds and texts.  A text is a lexeme of one kind only, and a keyword or an
-- operator has one text only.  The kind of a word is found in three tables that
-- share no word, so it does not matter which of them is looked up first.
import ImageScript.Proofs.Calls
import ImageScript.Proofs.Answers

namespace ImageScript

/-! ## The tables of words -/

namespace Word

/-- Words, each with the kind that it has. -/
abbrev KindTable := List (String × Kind)

/-- The words that the language keeps for itself. -/
def keywordTable : KindTable :=
  Keyword.all.map fun k => (k.text, .keyword k)

/-- The words that name a constant. -/
def constantTable : KindTable :=
  constants.map fun word => (word, .literal .constant)

/-- The words that name a truth value. -/
def booleanTable : KindTable :=
  booleans.map fun word => (word, .literal .boolean)

/-- The kind of a word in the first table that holds it. -/
def kindIn (tables : List KindTable) (word : String) : Kind :=
  (tables.findSome? fun table => table.lookup word).getD .identifier

theorem kindOf_eq_keyword_iff {word : String} {k : Keyword} :
    kindOf word = .keyword k ↔ word = k.text := by
  constructor
  · intro h
    unfold kindOf at h
    split at h
    · next k' hk =>
      cases h
      exact (Keyword.ofText?_eq_some_iff.1 hk).symm
    · split_ifs at h
  · rintro rfl
    unfold kindOf
    rw [Keyword.ofText?_eq_some_iff.2 rfl]

/-- No word is of a kind that is not one of words. -/
theorem kindOf_ne {word : String} {kind : Kind} (hk : ∀ k, kind ≠ .keyword k)
    (hc : kind ≠ .literal .constant) (hb : kind ≠ .literal .boolean) (hi : kind ≠ .identifier) :
    kindOf word ≠ kind := by
  rintro rfl
  rcases kindOf_cases word with ⟨k, h⟩ | h | h | h
  · exact hk k h
  · exact hc h
  · exact hb h
  · exact hi h

/-- Every table says of its words what they are, so no two of them differ. -/
theorem kindOf_eq_of_mem {word : String} {kind : Kind}
    (h : (word, kind) ∈ keywordTable ++ (constantTable ++ booleanTable)) : kindOf word = kind := by
  have hall : ∀ entry ∈ keywordTable ++ (constantTable ++ booleanTable),
      kindOf entry.1 = entry.2 := by
    decide +kernel
  exact hall _ h

/-- A word that no table holds is an identifier. -/
theorem mem_of_kindOf_ne {word : String} (h : kindOf word ≠ .identifier) :
    (word, kindOf word) ∈ keywordTable ++ (constantTable ++ booleanTable) := by
  simp only [List.mem_append, keywordTable, constantTable, booleanTable, List.mem_map]
  unfold kindOf at h ⊢
  split at h
  · next k hk =>
    rw [← Keyword.ofText?_eq_some_iff.1 hk]
    exact Or.inl ⟨k, k.mem_all, rfl⟩
  · by_cases hc : word ∈ constants
    · rw [if_pos hc]
      exact Or.inr (Or.inl ⟨word, hc, rfl⟩)
    · by_cases hb : word ∈ booleans
      · rw [if_neg hc, if_pos hb]
        exact Or.inr (Or.inr ⟨word, hb, rfl⟩)
      · rw [if_neg hc, if_neg hb] at h
        exact absurd rfl h

/-- The tables can be looked up in any order. -/
theorem kindIn_of_perm {tables : List KindTable}
    (h : tables.Perm [keywordTable, constantTable, booleanTable]) (word : String) :
    kindIn tables word = kindOf word := by
  have hmem : ∀ entry : String × Kind, (∃ table ∈ tables, entry ∈ table) ↔
      entry ∈ keywordTable ++ (constantTable ++ booleanTable) := by
    intro entry
    simp [h.mem_iff]
  unfold kindIn
  cases hlookup : tables.findSome? fun table => table.lookup word with
  | some kind =>
    obtain ⟨table, ht, hkind⟩ := List.exists_of_findSome?_eq_some hlookup
    obtain ⟨before, after, rfl, -⟩ := List.lookup_eq_some_iff.1 hkind
    exact (kindOf_eq_of_mem ((hmem (word, kind)).1 ⟨_, ht, by simp⟩)).symm
  | none =>
    by_contra hne
    obtain ⟨table, ht, hword⟩ := (hmem _).2 (mem_of_kindOf_ne (Ne.symm hne))
    have hnone := List.findSome?_eq_none_iff.1 hlookup table ht
    have := List.lookup_eq_none_iff.1 hnone _ hword
    simp at this

end Word

/-! ## The texts of a kind -/

namespace Lexeme

/-- A text is a lexeme of one kind only: it is read as that one. -/
theorem kind_eq {a b : Kind} {text : List Char} (ha : Lexeme a text) (hb : Lexeme b text) :
    a = b := by
  have hread {kind : Kind} (h : Lexeme kind text) :
      Front.ofText (text ++ []) = .lexeme kind text [] :=
    Front.ofText_append_of_lexeme h (by simp)
  exact (Front.lexeme.inj ((hread ha).symm.trans (hread hb))).1

/-- An operator has one text only. -/
theorem eq_spelling {o : Operator} {text : List Char} (h : Lexeme (.operator o) text) :
    text = o.spelling := by
  generalize hk : Kind.operator o = kind at h
  cases h with
  | operator o' =>
    cases hk
    rfl
  | word _ _ => exact absurd hk.symm (Word.kindOf_ne (by simp) (by simp) (by simp) (by simp))
  | _ => cases hk

/-- And so has a keyword. -/
theorem eq_text {k : Keyword} {text : List Char} (h : Lexeme (.keyword k) text) :
    text = k.text.toList := by
  generalize hk : Kind.keyword k = kind at h
  cases h with
  | word _ _ => rw [← Word.kindOf_eq_keyword_iff.1 hk.symm, String.toList_ofList]
  | _ => cases hk

/-- A string stands between quotes. -/
theorem exists_body {text : List Char} (h : Lexeme (.literal .string) text) :
    ∃ body, body.all isStringChar = true ∧ text = '"' :: body ++ ['"'] := by
  generalize hk : Kind.literal .string = kind at h
  cases h with
  | string hb => exact ⟨_, hb, rfl⟩
  | word _ _ => exact absurd hk.symm (Word.kindOf_ne (by simp) (by simp) (by simp) (by simp))
  | _ => cases hk

end Lexeme

/-! ## The tokens of a script -/

/-- A token that a script gives is the end of the input, or its text is a lexeme of
its kind. -/
theorem Answered.end_or_lexeme {source : String} {t : Token} (h : Answered source (.ok t)) :
    t = Layout.endAt t.start ∨ Lexeme t.kind t.text.toList := by
  obtain ⟨s, -, hs⟩ := h.exists_read
  exact Lexer.end_or_lexeme_of_read hs

/-- The text of a token tells its kind. -/
theorem Answered.kind_eq {source source' : String} {t u : Token} (ht : Answered source (.ok t))
    (hu : Answered source' (.ok u)) (h : t.text = u.text) : t.kind = u.kind := by
  rcases ht.end_or_lexeme with hend | hl
  · rcases hu.end_or_lexeme with hend' | hl'
    · rw [hend, hend']
      rfl
    · rw [← h, hend] at hl'
      exact absurd rfl hl'.ne_nil
  · rcases hu.end_or_lexeme with hend' | hl'
    · rw [h, hend'] at hl
      exact absurd rfl hl.ne_nil
    · rw [← h] at hl'
      exact hl.kind_eq hl'

/-- A keyword or operator has the text that its kind is written with. -/
theorem Answered.text_eq {source source' : String} {t u : Token} (ht : Answered source (.ok t))
    (hu : Answered source' (.ok u)) (h : t.kind = u.kind)
    (hfixed : t.kind.isKeyword = true ∨ ∃ o, t.kind = .operator o) : t.text = u.text := by
  have hlexeme {source : String} {v : Token} (hv : Answered source (.ok v))
      (hk : v.kind = t.kind) : Lexeme t.kind v.text.toList := by
    rcases hv.end_or_lexeme with hend | hl
    · rw [hend] at hk
      rw [← hk] at hfixed
      simp [Kind.isKeyword, Layout.endAt] at hfixed
    · rw [← hk]
      exact hl
  have htext := hlexeme ht rfl
  have hutext := hlexeme hu h.symm
  apply String.toList_inj.1
  rcases hfixed with hk | ⟨o, ho⟩
  · obtain ⟨k, hk⟩ := Kind.isKeyword_iff.1 hk
    rw [hk] at htext hutext
    rw [htext.eq_text, hutext.eq_text]
  · rw [ho] at htext hutext
    rw [htext.eq_spelling, hutext.eq_spelling]

/-! ## Keywords and their names -/

/-- The name of a keyword tells its word. -/
theorem Kind.name_keyword_iff {k : Keyword} {word : String} :
    (Kind.keyword k).name = "RES_" ++ word ↔ Word.kindOf word = .keyword k := by
  have hname : (Kind.keyword k).name = "RES_" ++ k.text := k.name_eq
  rw [hname, String.append_right_inj, Word.kindOf_eq_keyword_iff]
  exact eq_comm

theorem Word.isKeyword_kindOf_iff {word : String} :
    (kindOf word).isKeyword = true ↔ ∃ k : Keyword, (Kind.keyword k).name = "RES_" ++ word := by
  rw [Kind.isKeyword_iff]
  simp only [Kind.name_keyword_iff]

/-! ## The law -/

/-- Two tokens of any two scripts have the same kind if they have the same text, and
a keyword or operator has the same text wherever it stands.  A word on its own is
lexed into one token.  It is a keyword exactly if it is the word in the name of one,
and no other word is that keyword, however little it differs.  What kind a word is
does not hang on which of the three tables is looked up first. -/
theorem kind_and_text_tell_each_other :
    (∀ source source' t u, Answered source (.ok t) → Answered source' (.ok u) →
      (t.text = u.text → t.kind = u.kind) ∧
      (t.kind = u.kind → (t.kind.isKeyword = true ∨ ∃ o, t.kind = .operator o) →
        t.text = u.text)) ∧
    (∀ c cs, Word.isStart c = true → cs.all Word.isPart = true →
      lex (String.ofList (c :: cs)) =
        .ok [{ kind := Word.kindOf (String.ofList (c :: cs)), start := .start,
               text := String.ofList (c :: cs) },
          Layout.endAt (Position.start.after (c :: cs))]) ∧
    (∀ kind : Kind, kind.isKeyword = true ↔ ∃ k : Keyword, kind = .keyword k) ∧
    ∀ word : String,
      ((Word.kindOf word).isKeyword = true ↔
        ∃ k : Keyword, (Kind.keyword k).name = "RES_" ++ word) ∧
      (∀ k : Keyword, (Kind.keyword k).name = "RES_" ++ word →
        Word.kindOf word = .keyword k) ∧
      (∀ k, Word.kindOf word = .keyword k ↔ word = k.text) ∧
      ∀ tables : List Word.KindTable,
        tables.Perm [Word.keywordTable, Word.constantTable, Word.booleanTable] →
        Word.kindIn tables word = Word.kindOf word := by
  refine ⟨?_, ?_, fun kind => Kind.isKeyword_iff, ?_⟩
  · intro source source' t u ht hu
    exact ⟨ht.kind_eq hu, ht.text_eq hu⟩
  · intro c cs hc hcs
    exact lex_of_lexeme (.word hc hcs)
  · intro word
    refine ⟨Word.isKeyword_kindOf_iff, ?_, fun k => Word.kindOf_eq_keyword_iff, ?_⟩
    · intro k hname
      exact Kind.name_keyword_iff.1 hname
    · intro tables h
      exact Word.kindIn_of_perm h word

/-- A keyword behind a number and the same one behind a failure, a word that is
longer than a keyword, and a constant that is looked for among the truth values
first. -/
theorem a_keyword_behind_a_failure_is_the_same :
    (∃ t u, Answered "0if" (.ok t) ∧ Answered "\"\tif" (.ok u) ∧ t.start ≠ u.start ∧
      t.kind = .keyword .beginIf ∧ t.kind = u.kind ∧ t.text = u.text) ∧
    (∃ kind, lex "if_" = .ok [{ kind, start := .start, text := "if_" },
        Layout.endAt { line := 1, column := 4, offset := 3 }] ∧ kind ≠ .keyword .beginIf) ∧
    Word.kindOf "fi" = .keyword .endIf ∧
    Word.kindIn [Word.booleanTable, Word.constantTable, Word.keywordTable] "RED" =
      Word.kindOf "RED" := by
  obtain ⟨htokens, hwords, -, hkinds⟩ := kind_and_text_tell_each_other
  refine ⟨?_, ?_, ?_, ?_⟩
  · let t : Token :=
      { kind := .keyword .beginIf, start := { line := 1, column := 2, offset := 1 }, text := "if" }
    let u : Token :=
      { kind := .keyword .beginIf, start := { line := 1, column := 3, offset := 2 }, text := "if" }
    have ht : Answered "0if" (.ok t) :=
      ⟨[.token, .token], _, _, answers_pullAll _ _, by decide +kernel⟩
    have hu : Answered "\"\tif" (.ok u) :=
      ⟨[.item, .token], _, _, answers_pullAll _ _, by decide +kernel⟩
    obtain ⟨hkind, htext⟩ := htokens _ _ t u ht hu
    exact ⟨t, u, ht, hu, by decide, rfl, hkind rfl, htext rfl (Or.inl rfl)⟩
  · refine ⟨_, hwords 'i' ['f', '_'] (by decide) (by decide), ?_⟩
    rw [Ne, (hkinds _).2.2.1]
    decide
  · exact (hkinds "fi").2.1 .endIf rfl
  · exact (hkinds "RED").2.2.2 _ (List.reverse_perm [_, _, _])

end ImageScript
