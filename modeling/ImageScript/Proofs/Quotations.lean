-- Strings and what stands between their quotes.  A text that a string can hold is
-- read back from the quotes as it was, and every string that is read holds such a
-- text.  The first character that a string cannot hold is at fault.
import ImageScript.Proofs.Kinds
import ImageScript.Proofs.LineEndings
import ImageScript.Proofs.Lines
import ImageScript.Proofs.Numerals
import ImageScript.Proofs.Respacing

namespace ImageScript

/-! ## Texts between quotes -/

/-- A text of printable ASCII characters other than the quote. -/
def Quotable (s : String) : Prop :=
  ∀ c ∈ s.toList, 32 ≤ c.toNat ∧ c.toNat ≤ 126 ∧ c ≠ '"'

/-- A text between double quotes. -/
def quoted (s : String) : String :=
  "\"" ++ s ++ "\""

theorem toList_quoted (s : String) : (quoted s).toList = '"' :: s.toList ++ ['"'] := by
  simp [quoted]

theorem quotable_iff {s : String} : Quotable s ↔ s.toList.all isStringChar = true := by
  have hchar : ∀ c, isStringChar c = true ↔ 32 ≤ c.toNat ∧ c.toNat ≤ 126 ∧ c ≠ '"' := by
    intro c
    rw [← and_assoc, ← toNat_of_printable]
    simp [isStringChar]
  simp only [Quotable, List.all_eq_true, hchar]

theorem Quotable.lexeme {s : String} (h : Quotable s) :
    Lexeme (.literal .string) (quoted s).toList := by
  rw [toList_quoted]
  exact .string (quotable_iff.1 h)

/-- A string literal is a quoted text, and nothing else is. -/
theorem Lexeme.exists_quoted {text : String} (h : Lexeme (.literal .string) text.toList) :
    ∃ s, Quotable s ∧ text = quoted s := by
  obtain ⟨body, hbody, htext⟩ := h.exists_body
  refine ⟨String.ofList body, ?_, ?_⟩
  · rw [quotable_iff, String.toList_ofList]
    exact hbody
  · apply String.toList_inj.1
    rw [htext, toList_quoted, String.toList_ofList]

/-- The quotes are taken off again. -/
theorem Token.contents?_of_quoted {t : Token} {s : String} (hk : t.kind = .literal .string)
    (ht : t.text = quoted s) : t.contents? = some s := by
  unfold contents?
  rw [if_pos hk, ht, toList_quoted, List.cons_append, unquoted?]
  simp

/-! ## Quoted texts as scripts -/

theorem Position.start_after_string {body : List Char} (h : body.all isStringChar = true) :
    start.after ('"' :: body) = onFirstLine (1 + Utf8.length body) := by
  have hquote : '"'.utf8Size = 1 := rfl
  rw [after_of_notMem (lineFeed_notMem_string h), Utf8.length_cons, hquote]
  simp [start, onFirstLine, Nat.add_comm]

theorem lex_quoted {s : String} (h : Quotable s) :
    lex (quoted s) =
      .ok [{ kind := .literal .string, start := .start, text := quoted s },
        Layout.endAt (.onFirstLine (1 + s.utf8ByteSize + 1))] := by
  have hlex := lex_of_lexeme h.lexeme
  have hstop : Position.start.after (quoted s).toList =
      .onFirstLine (1 + s.utf8ByteSize + 1) := by
    rw [toList_quoted, Position.after_append, Position.start_after_string (quotable_iff.1 h),
      ← Utf8.utf8ByteSize_eq_length]
    rfl
  rw [String.ofList_toList, hstop] at hlex
  exact hlex

/-- A quoted text whose first character that is not printable comes before any
quote of its own. -/
theorem lex_quoted_of_illegal {body rest : List Char} {c : Char}
    (hb : Quotable (String.ofList body)) (hc : ¬ (32 ≤ c.toNat ∧ c.toNat ≤ 126)) :
    lex (quoted (String.ofList (body ++ c :: rest))) =
      .error { fault := .illegalInString c, start := .onFirstLine (1 + Utf8.length body),
               length := c.utf8Size } := by
  rw [quotable_iff, String.toList_ofList] at hb
  rw [← toNat_of_printable] at hc
  obtain ⟨hstring, hquote⟩ := isStringChar_eq_false_iff.2 hc
  have hfaulty : Faulty ('"' :: body) [c] (rest ++ ['"']) (.illegalInString c) :=
    .illegalInString hb hstring hquote
  have htext : quoted (String.ofList (body ++ c :: rest)) =
      String.ofList ('"' :: body ++ [c] ++ (rest ++ ['"'])) := by
    apply String.toList_inj.1
    rw [toList_quoted, String.toList_ofList, String.toList_ofList]
    simp
  rw [htext, lex_of_faulty hfaulty, Position.start_after_string hb]
  simp

/-- A string token that a script gives is a quoted text, and holds it. -/
theorem Answered.exists_quoted {source : String} {t : Token} (h : Answered source (.ok t))
    (hk : t.kind = .literal .string) :
    ∃ s, Quotable s ∧ t.contents? = some s ∧ t.text = quoted s := by
  rcases h.end_or_lexeme with hend | hl
  · rw [hend] at hk
    cases hk
  · rw [hk] at hl
    obtain ⟨s, hs, htext⟩ := hl.exists_quoted
    exact ⟨s, hs, Token.contents?_of_quoted hk htext, htext⟩

/-! ## The law -/

/-- A quoted text is lexed into one string that holds it if and only if all its
characters are printable and none is a quote.  If a character that is not printable
comes before any quote, the first of them is at fault.  And every string that a
script gives, behind whatever failures, is such a text between its quotes. -/
theorem a_string_holds_what_is_quoted :
    (∀ s : String,
      (∃ t e, lex (quoted s) = .ok [t, e] ∧ t.kind = .literal .string ∧
        e.kind = .endOfInput ∧ t.contents? = some s) ↔ Quotable s) ∧
    (∀ s : String, Quotable s → lex (quoted s) =
      .ok [{ kind := .literal .string, start := .start, text := quoted s },
        Layout.endAt (.onFirstLine (1 + s.utf8ByteSize + 1))]) ∧
    (∀ (body rest : List Char) (c : Char), Quotable (String.ofList body) →
      ¬ (32 ≤ c.toNat ∧ c.toNat ≤ 126) →
      lex (quoted (String.ofList (body ++ c :: rest))) =
        .error { fault := .illegalInString c, start := .onFirstLine (1 + Utf8.length body),
                 length := c.utf8Size }) ∧
    ∀ source t, Answered source (.ok t) → t.kind = .literal .string →
      ∃ s, Quotable s ∧ t.contents? = some s ∧ t.text = quoted s := by
  refine ⟨?_, fun s h => lex_quoted h, fun body rest c hb hc => lex_quoted_of_illegal hb hc,
    fun source t h hk => h.exists_quoted hk⟩
  intro s
  constructor
  · rintro ⟨t, e, hlex, hk, -, hcontents⟩
    obtain ⟨lexemes, stop, htokens, hlexemes⟩ := exists_lexemes_of_lex hlex
    have ht : t ∈ lexemes ++ [Layout.endAt stop] := by
      rw [← htokens]
      exact List.mem_cons_self
    rcases List.mem_append.1 ht with ht | ht
    · have hl := hlexemes t ht
      rw [hk] at hl
      obtain ⟨s', hs', htext⟩ := hl.exists_quoted
      rw [Token.contents?_of_quoted hk htext] at hcontents
      rw [← Option.some.inj hcontents]
      exact hs'
    · rw [List.mem_singleton.1 ht] at hk
      cases hk
  · intro h
    exact ⟨_, _, lex_quoted h, rfl, rfl, Token.contents?_of_quoted rfl rfl⟩

/-- A text that looks like a comment, one that is broken off by a character of two
bytes, and a string behind the failure of another one. -/
theorem a_comment_is_held_between_quotes :
    lex (quoted "##") =
      .ok [{ kind := .literal .string, start := .start, text := quoted "##" },
        Layout.endAt { line := 1, column := 5, offset := 4 }] ∧
    lex (quoted "##é\"") =
      .error { fault := .illegalInString 'é',
               start := { line := 1, column := 4, offset := 3 }, length := 2 } ∧
    ∃ t, Answered "\"\n\"\"" (.ok t) ∧ t.start.line = 2 ∧
      ∃ s, Quotable s ∧ t.contents? = some s ∧ t.text = quoted s := by
  obtain ⟨-, hquoted, hillegal, hanswered⟩ := a_string_holds_what_is_quoted
  have hhashes : Quotable "##" := by
    rw [quotable_iff]
    decide
  refine ⟨hquoted "##" hhashes, hillegal ['#', '#'] ['"'] 'é' hhashes (by decide), ?_⟩
  let t : Token :=
    { kind := .literal .string, start := { line := 2, column := 1, offset := 2 }, text := "\"\"" }
  have ht : Answered "\"\n\"\"" (.ok t) :=
    ⟨[.token, .token], _, _, answers_pullAll _ _, by decide +kernel⟩
  exact ⟨t, ht, rfl, hanswered _ t ht rfl⟩

end ImageScript
