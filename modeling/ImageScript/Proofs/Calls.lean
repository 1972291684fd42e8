-- One call on a text, in the words of the grammar.  There are three ways that
-- it can end: the text is a last gap, or it has a lexeme behind a gap, or a
-- fault.  Each way is told by what stands in the text, so a call on another
-- text ends in the same way if the same things stand there.
import ImageScript.Proofs.Failures

namespace ImageScript

/-! ## What a fault begins with -/

/-- A fault begins with no blank and with no comment. -/
theorem Faulty.head {before stretch after : List Char} {fault : Fault}
    (h : Faulty before stretch after fault) :
    (∀ c ∈ (before ++ stretch ++ after).head?, isBlank c = false) ∧
      ∀ rest, before ++ stretch ++ after = '#' :: rest → rest.head? ≠ some '#' := by
  cases h with
  | @unexpectedCharacter c after hc =>
    refine ⟨?_, ?_⟩
    · rintro d ⟨⟩
      exact hc.1
    · intro rest hr
      exact absurd (List.cons.inj hr).1 hc.2.1
  | @loneHash after ha =>
    refine ⟨?_, ?_⟩
    · rintro d ⟨⟩
      decide
    · intro rest hr
      rw [← (List.cons.inj hr).2]
      exact ha
  | @numberTooLarge d ds after hd _ _ _ =>
    have hrange := toNat_of_isDigit (isDigit_of_isLeadingDigit hd)
    refine ⟨?_, ?_⟩
    · rintro e ⟨⟩
      exact isBlank_eq_false_of_lt (by omega)
    · intro rest hr
      rw [(List.cons.inj hr).1] at hrange
      exact absurd hrange.1 (by decide)
  | _ =>
    refine ⟨?_, ?_⟩
    · rintro d ⟨⟩
      decide
    · intro rest hr
      exact absurd (List.cons.inj hr).1 (by decide)

namespace Lexer

/-! ## What a call finds -/

/-- A lexer that takes the front of a text leaves the place where it was. -/
theorem takeFront_moveTo (s : Lexer) (p q : Position) (cs : List Char) (f : Front) :
    (s.moveTo p cs).takeFront q f = s.takeFront q f := by
  cases f with
  | loneHash rest => cases rest <;> rfl
  | _ => rfl

/-- A call in front of a gap ends as one behind it would. -/
theorem read_of_gap {s : Lexer} {gap cs : List Char} (hg : Gap gap)
    (ha : s.ahead = .text (gap ++ cs)) :
    s.read = (s.moveTo (s.position.after gap) cs).read := by
  rw [read_of_text ha, read_of_text rfl, splitGap_append_of_gap hg, takeFront_moveTo,
    Position.after_append]
  rfl

theorem read_of_lexeme {s : Lexer} {gap text rest : List Char} {kind : Kind} (hg : Gap gap)
    (hl : Lexeme kind text) (he : ∀ c ∈ rest.head?, ¬ Extends text c)
    (ha : s.ahead = .text (gap ++ (text ++ rest))) :
    s.read =
      (.ok { kind, start := s.position.after gap, text := String.ofList text },
        s.moveTo (s.position.after (gap ++ text)) rest) := by
  rw [read_of_gap hg ha, read_of_text rfl, splitGap_of_lexeme hl,
    Front.ofText_append_of_lexeme hl he, takeFront_moveTo, Position.after_append]
  rfl

theorem read_of_faulty {s : Lexer} {gap before stretch after : List Char} {fault : Fault}
    (hg : Gap gap) (hf : Faulty before stretch after fault)
    (ha : s.ahead = .text (gap ++ (before ++ stretch ++ after))) :
    s.read.1 =
      .error { fault, start := s.position.after (gap ++ before),
               length := Utf8.length stretch } := by
  have hsplit := splitGap_of_head hf.head.1 hf.head.2
  rw [read_of_gap hg ha, read_of_text rfl, hsplit, takeFront_of_faulty hf,
    Position.after_append]
  rfl

/-- The three ways that a call on a text can end. -/
theorem read_text_cases {s : Lexer} {cs : List Char} (ha : s.ahead = .text cs) :
    (FinalGap cs ∧
      s.read = (.ok (Layout.endAt (s.position.after cs)), s.moveTo (s.position.after cs) [])) ∨
    (∃ gap kind text rest, cs = gap ++ (text ++ rest) ∧ Gap gap ∧ Lexeme kind text ∧
      (∀ c ∈ rest.head?, ¬ Extends text c) ∧
      s.read = (.ok { kind, start := s.position.after gap, text := String.ofList text },
        s.moveTo (s.position.after (gap ++ text)) rest)) ∨
    ∃ gap before stretch after fault, cs = gap ++ (before ++ stretch ++ after) ∧ Gap gap ∧
      Faulty before stretch after fault ∧
      s.read.1 = .error { fault, start := s.position.after (gap ++ before),
                          length := Utf8.length stretch } := by
  obtain ⟨gap, rest, rfl, hsplit, hfinal, hgap, hsound⟩ := exists_splitGap cs
  have hread := read_of_text ha
  rw [hsplit] at hread
  have hinput := Front.input_ofText rest
  cases hf : Front.ofText rest with
  | nothing =>
    rw [hf] at hinput hread
    obtain rfl : [] = rest := hinput
    rw [List.append_nil]
    exact Or.inl ⟨hfinal, hread⟩
  | lexeme kind text rest' =>
    rw [hf] at hinput hread hsound
    obtain rfl : text ++ rest' = rest := hinput
    have hne : text ++ rest' ≠ [] := by
      intro hnil
      exact hsound.1.ne_nil (List.append_eq_nil_iff.1 hnil).1
    refine Or.inr (Or.inl ⟨gap, kind, text, rest', rfl, hgap hne, hsound.1, hsound.2, ?_⟩)
    rw [hread, Position.after_append]
    rfl
  | _ =>
    obtain ⟨e, he⟩ : ∃ e,
        (s.takeFront (s.position.after gap) (Front.ofText rest)).1 = .error e := by
      rw [hf]
      exact ⟨_, rfl⟩
    obtain ⟨before, stretch, after, hfaulty, hi⟩ := hsound.exists_faulty he
    rw [Front.input_ofText] at hi
    subst hi
    have hne : before ++ stretch ++ after ≠ [] := by
      intro hnil
      rw [hnil] at hf
      cases hf
    exact Or.inr (Or.inr ⟨gap, before, stretch, after, e.fault, rfl, hgap hne, hfaulty,
      read_of_faulty (hgap hne) hfaulty ha⟩)

/-- A token that is read is the end of the input, or its text is a lexeme of its
kind. -/
theorem end_or_lexeme_of_read {s : Lexer} {t : Token} (h : s.read.1 = .ok t) :
    t = Layout.endAt t.start ∨ Lexeme t.kind t.text.toList := by
  cases ha : s.ahead with
  | brokenCharacter =>
    rw [read_of_brokenCharacter ha] at h
    cases h
  | text cs =>
    rcases read_text_cases ha with ⟨-, hr⟩ | ⟨gap, kind, text, rest, rfl, -, hl, -, hr⟩ |
      ⟨_, _, _, _, _, _, _, _, hr⟩
    · rw [hr] at h
      cases h
      exact Or.inl rfl
    · rw [hr] at h
      cases h
      rw [String.toList_ofList]
      exact Or.inr hl
    · rw [hr] at h
      cases h

end Lexer

/-- A script that begins with a fault fails with it. -/
theorem lex_of_faulty {before stretch after : List Char} {fault : Fault}
    (h : Faulty before stretch after fault) :
    lex (String.ofList (before ++ stretch ++ after)) =
      .error { fault, start := Position.start.after before, length := Utf8.length stretch } := by
  unfold lex
  apply Lexer.collect_rest_of_error rfl
  apply Lexer.read_of_faulty .nil h
  rw [Lexer.ofString, String.toList_ofList, List.nil_append]

/-- A script that fails has its fault behind some text. -/
theorem exists_faulty_of_lex {source : String} {e : Failure} (h : lex source = .error e) :
    ∃ text before stretch after, Faulty before stretch after e.fault ∧
      source.toList = text ++ (before ++ stretch ++ after) ∧
      e.start = Position.start.after (text ++ before) ∧ e.length = Utf8.length stretch := by
  obtain ⟨l, rest, -, htext, -, hsound, -, hrest⟩ :=
    (Lexer.ofString source).exists_layout rfl rfl
  obtain ⟨outcome, houtcome⟩ : ∃ o, o = ((Lexer.ofString source).takeFront
    ((Lexer.ofString source).position.after l.text) (Front.ofText rest)).1 := ⟨_, rfl⟩
  unfold lex at h
  rw [hrest, ← houtcome] at h
  cases outcome with
  | ok t =>
    rw [collect_ok] at h
    cases h
  | error f =>
    rw [collect_error] at h
    cases h
    obtain ⟨before, stretch, after, hf, hi⟩ := hsound.exists_faulty houtcome.symm
    rw [Front.input_ofText] at hi
    rw [hi, Lexer.takeFront_of_faulty hf, ← Position.after_append] at houtcome
    have he := Except.error.inj houtcome
    refine ⟨l.text, before, stretch, after, hf, ?_, ?_, ?_⟩
    · rw [← hi]
      exact htext
    · exact congrArg Failure.start he
    · exact congrArg Failure.length he

end ImageScript
