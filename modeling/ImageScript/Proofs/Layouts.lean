-- The grammar of scripts against the lexer.  A script is lexed without failure
-- exactly when it has a layout, and then it has only one, whose lexemes are the
-- tokens.  A script that fails has a layout up to the place where it fails.
import ImageScript.Proofs.Spelling
import ImageScript.Proofs.Streams

namespace ImageScript

/-! ## The end of a row -/

namespace Layout

/-- The text of some pieces. -/
def textOf (ps : List Piece) : List Char :=
  ps.flatMap fun p => p.gap ++ p.text

/-- The tokens of some pieces that start at a position, without an end. -/
def tokensOf : Position → List Piece → List Token
  | _, [] => []
  | p, q :: qs =>
    { kind := q.kind, start := p.after q.gap, text := String.ofList q.text }
      :: tokensOf (p.after (q.gap ++ q.text)) qs

/-- The end of the input at a position. -/
def endAt (p : Position) : Token :=
  { kind := .endOfInput, start := p, text := "" }

theorem text_cons (q : Piece) (qs : List Piece) (final : List Char) :
    text { pieces := q :: qs, final } = q.gap ++ (q.text ++ text { pieces := qs, final }) := by
  simp only [text, List.flatMap_cons, List.append_assoc]

theorem tokensFrom_eq (p : Position) (final : List Char) (ps : List Piece) :
    tokensFrom p final ps = tokensOf p ps ++ [endAt (p.after (textOf ps ++ final))] := by
  induction ps generalizing p with
  | nil => rfl
  | cons q qs ih =>
    have ht : textOf (q :: qs) ++ final = q.gap ++ q.text ++ (textOf qs ++ final) := by
      simp only [textOf, List.flatMap_cons, List.append_assoc]
    rw [tokensFrom, tokensOf, ih, ht, Position.after_append p (q.gap ++ q.text), List.cons_append]

/-! ## Layouts piece by piece -/

/-- What follows a piece of a valid layout starts with a gap or with the next
lexeme, so a layout is valid when its first piece is, does not run into what
follows, and leaves a valid layout. -/
theorem valid_cons_iff {q : Piece} {qs : List Piece} {final : List Char} :
    Valid { pieces := q :: qs, final } ↔
      Gap q.gap ∧ Lexeme q.kind q.text ∧
      (∀ c ∈ (text { pieces := qs, final }).head?, ¬ Extends q.text c) ∧
      Valid { pieces := qs, final } := by
  constructor
  · intro h
    obtain ⟨hg, hl, hf, ha⟩ := h
    refine ⟨hg q List.mem_cons_self, hl q List.mem_cons_self, ?_, ?_⟩
    · intro c hc
      cases qs with
      | nil => exact not_extends_of_gap (hf.head c hc)
      | cons r rs =>
        rw [text_cons] at hc
        rcases hr : r.gap with _ | ⟨d, g⟩
        · obtain ⟨e, es, he, -⟩ := (hl r (by simp)).head
          rw [hr, he] at hc
          apply ha.1 hr
          rw [he]
          exact hc
        · rw [hr] at hc
          apply not_extends_of_gap
          apply (hg r (by simp)).head c
          rw [hr]
          exact hc
    · refine ⟨fun p hp => hg p (List.mem_cons_of_mem q hp),
        fun p hp => hl p (List.mem_cons_of_mem q hp), hf, ?_⟩
      cases qs with
      | nil => trivial
      | cons r rs => exact ha.2
  · rintro ⟨hg, hl, he, h⟩
    refine ⟨?_, ?_, h.final, ?_⟩
    · intro p hp
      rcases List.mem_cons.1 hp with rfl | hp
      · exact hg
      · exact h.gaps p hp
    · intro p hp
      rcases List.mem_cons.1 hp with rfl | hp
      · exact hl
      · exact h.lexemes p hp
    · cases qs with
      | nil => trivial
      | cons r rs =>
        refine ⟨?_, h.apart⟩
        intro hr c hc
        apply he c
        rw [text_cons, hr, List.nil_append, List.head?_append, Option.mem_def.1 hc]
        rfl

end Layout

/-! ## Gaps are cut off -/

/-- A lexeme is no gap. -/
theorem splitGap_of_lexeme {kind : Kind} {text : List Char} (h : Lexeme kind text)
    (cs : List Char) : splitGap .blanks (text ++ cs) = ([], text ++ cs) := by
  obtain ⟨c, ds, rfl, hb, hh⟩ := h.head
  apply splitGap_of_head
  · rintro d ⟨⟩
    exact hb
  · intro rest hr
    exact absurd (List.cons.inj hr).1 hh

theorem splitGap_of_finalGap {g : List Char} (h : FinalGap g) :
    splitGap .blanks g = (g, []) := by
  cases h with
  | closed h =>
    have hs := splitGap_append_of_gap h []
    rw [List.append_nil, splitGap, List.append_nil] at hs
    exact hs
  | @opened g body h hb =>
    rw [splitGap_append_of_gap h]
    simp only [splitGap, splitGap_comment_of_notMem hb]

namespace Layout

/-- The first piece of a valid layout is what is read at its front. -/
theorem splitGap_text_cons {q : Piece} {qs : List Piece} {final : List Char}
    (h : Valid { pieces := q :: qs, final }) :
    splitGap .blanks (text { pieces := q :: qs, final }) =
      (q.gap, q.text ++ text { pieces := qs, final }) := by
  obtain ⟨hg, hl, -⟩ := valid_cons_iff.1 h
  rw [text_cons, splitGap_append_of_gap hg, splitGap_of_lexeme hl, List.append_nil]

theorem ofText_text_cons {q : Piece} {qs : List Piece} {final : List Char}
    (h : Valid { pieces := q :: qs, final }) :
    Front.ofText (q.text ++ text { pieces := qs, final }) =
      .lexeme q.kind q.text (text { pieces := qs, final }) := by
  obtain ⟨-, hl, he, -⟩ := valid_cons_iff.1 h
  exact Front.ofText_append_of_lexeme hl he

/-- A text has one valid layout at most. -/
theorem eq_of_text_eq {l l' : Layout} (h : l.Valid) (h' : l'.Valid) (ht : l.text = l'.text) :
    l = l' := by
  obtain ⟨ps, final⟩ := l
  obtain ⟨ps', final'⟩ := l'
  -- both layouts are taken off the same text, one piece after the other
  induction ps generalizing ps' with
  | nil =>
    cases ps' with
    | nil => rw [show final = final' from ht]
    | cons q' qs' =>
      have hs := splitGap_of_finalGap h.final
      rw [show final = _ from ht, splitGap_text_cons h'] at hs
      obtain ⟨c, cs, hc, -⟩ := (valid_cons_iff.1 h').2.1.head
      have hnil := (Prod.mk.inj hs).2
      rw [hc] at hnil
      cases hnil
  | cons q qs ih =>
    have hs := splitGap_text_cons h
    cases ps' with
    | nil =>
      rw [ht, show text ⟨[], final'⟩ = final' from rfl, splitGap_of_finalGap h'.final] at hs
      obtain ⟨c, cs, hc, -⟩ := (valid_cons_iff.1 h).2.1.head
      have hnil := (Prod.mk.inj hs).2
      rw [hc] at hnil
      cases hnil
    | cons q' qs' =>
      rw [ht, splitGap_text_cons h'] at hs
      obtain ⟨hgap, hrest⟩ := Prod.mk.inj hs
      have hf := ofText_text_cons h
      rw [← hrest, ofText_text_cons h'] at hf
      obtain ⟨hkind, htext, htail⟩ := Front.lexeme.inj hf
      have hq : q = q' := by
        cases q
        cases q'
        simp only [Piece.mk.injEq]
        exact ⟨hgap.symm, hkind.symm, htext.symm⟩
      have hqs := ih (valid_cons_iff.1 h).2.2.2 qs' (valid_cons_iff.1 h').2.2.2 htail.symm
      rw [Layout.mk.injEq] at hqs ⊢
      exact ⟨by rw [hq, hqs.1], hqs.2⟩

end Layout

/-! ## The stream of a layout -/

namespace Lexer

/-- In front of a valid layout the next token is its first lexeme. -/
theorem read_of_valid_cons {q : Piece} {qs : List Piece} {final : List Char}
    (h : Layout.Valid { pieces := q :: qs, final }) {s : Lexer}
    (ha : s.ahead = .text (Layout.text { pieces := q :: qs, final })) :
    s.read =
      (.ok { kind := q.kind, start := s.position.after q.gap, text := String.ofList q.text },
        s.moveTo (s.position.after (q.gap ++ q.text)) (Layout.text { pieces := qs, final })) := by
  rw [read_of_text ha, Layout.splitGap_text_cons h, Layout.ofText_text_cons h,
    Position.after_append]
  rfl

/-- In front of a last gap there is only the end. -/
theorem read_of_finalGap {g : List Char} (h : FinalGap g) {s : Lexer} (ha : s.ahead = .text g) :
    s.read.1 = .ok (Layout.endAt (s.position.after g)) := by
  rw [read_of_text ha, splitGap_of_finalGap h]
  rfl

/-- The stream in front of a valid layout holds the tokens of the layout. -/
theorem rest_of_valid {ps : List Piece} {final : List Char}
    (h : Layout.Valid { pieces := ps, final }) {s : Lexer} (hf : s.finished = false)
    (ha : s.ahead = .text (Layout.text { pieces := ps, final })) :
    s.rest.1 = (Layout.tokensFrom s.position final ps).map .ok := by
  induction ps generalizing s with
  | nil =>
    have hr := read_of_finalGap h.final ha
    rw [rest_of_isLast hf (by rw [hr]; rfl), hr]
    rfl
  | cons q qs ih =>
    obtain ⟨-, hl, -, hv⟩ := Layout.valid_cons_iff.1 h
    have hr := read_of_valid_cons h ha
    have hlast : s.read.1.isLast = false := by
      rw [hr]
      exact Outcome.isLast_ok hl.kind_ne_endOfInput
    rw [rest_of_not_isLast hf hlast, hr]
    have htail := ih hv (s := s.moveTo (s.position.after (q.gap ++ q.text))
      (Layout.text { pieces := qs, final })) hf rfl
    rw [htail]
    rfl

/-- A stream reads a valid layout, as far as it gets.  What is left there is
empty or no lexeme begins it, and the last outcome is what is found there. -/
theorem exists_layout (s : Lexer) (hf : s.finished = false) {cs : List Char}
    (ha : s.ahead = .text cs) :
    ∃ (l : Layout) (rest : List Char), l.Valid ∧ cs = l.text ++ rest ∧
      (rest ≠ [] → Gap l.final) ∧ (Front.ofText rest).Sound ∧
      (∀ kind text after, Front.ofText rest ≠ .lexeme kind text after) ∧
      s.rest.1 = (Layout.tokensOf s.position l.pieces).map .ok ++
        [(s.takeFront (s.position.after l.text) (Front.ofText rest)).1] := by
  induction hn : cs.length using Nat.strong_induction_on generalizing s cs with
  | _ n ih =>
    obtain ⟨gap, rest, rfl, hsplit, hfinal, hgap, hsound⟩ := exists_splitGap cs
    have hread := read_of_text ha
    rw [hsplit] at hread
    rw [List.length_append] at hn
    by_cases hlex : ∃ kind text after, Front.ofText rest = .lexeme kind text after
    · obtain ⟨kind, text, after, hf'⟩ := hlex
      have hinput := Front.input_ofText rest
      rw [hf'] at hsound hread hinput
      obtain ⟨hl, he⟩ := hsound
      have hlast : s.read.1.isLast = false := by
        rw [hread]
        exact Outcome.isLast_ok hl.kind_ne_endOfInput
      have hlt := Front.length_rest_lt hf'
      have hne : rest ≠ [] := by
        rintro rfl
        cases hf'
      obtain ⟨l, left, hv, htext, hclosed, hsound', hstop, hrest⟩ :=
        ih after.length (by omega) s.read.2 (by rw [finished_read, hf])
          (by rw [hread]; rfl) rfl
      refine ⟨{ pieces := { gap, kind, text } :: l.pieces, final := l.final }, left,
        ?_, ?_, hclosed, hsound', hstop, ?_⟩
      · refine Layout.valid_cons_iff.2 ⟨hgap hne, hl, ?_, hv⟩
        intro c hc
        apply he c
        rw [htext, List.head?_append, Option.mem_def.1 hc]
        rfl
      · rw [Layout.text_cons, ← hinput, Front.input, htext]
        simp only [List.append_assoc]
      · rw [rest_of_not_isLast hf hlast, hrest, takeFront_fst _ s, hread]
        simp only [takeFront, moveTo, Layout.tokensOf, Layout.text_cons, Position.after_append,
          List.map_cons, List.cons_append]
    · have hlast : s.read.1.isLast = true := by
        rw [hread]
        cases hf' : Front.ofText rest with
        | lexeme kind text after => exact absurd ⟨kind, text, after, hf'⟩ hlex
        | _ => rfl
      refine ⟨{ pieces := [], final := gap }, rest, ?_, rfl, hgap, hsound, ?_, ?_⟩
      · exact ⟨by simp, by simp, hfinal, trivial⟩
      · intro kind text after h
        exact hlex ⟨kind, text, after, h⟩
      · rw [rest_of_isLast hf hlast, hread]
        rfl

end Lexer

/-! ## The laws -/

theorem lex_of_valid {l : Layout} (h : l.Valid) : lex (String.ofList l.text) = .ok l.tokens := by
  have hr := Lexer.rest_of_valid h (s := .ofString (String.ofList l.text)) rfl
    (by rw [Lexer.ofString, String.toList_ofList])
  unfold lex
  rw [hr, Layout.tokensFrom_eq, List.map_append, List.map_cons, List.map_nil, collect_ok,
    Layout.tokens, Layout.tokensFrom_eq]
  rfl

/-- A lexeme on its own is lexed into itself and the end behind it. -/
theorem lex_of_lexeme {kind : Kind} {text : List Char} (h : Lexeme kind text) :
    lex (String.ofList text) =
      .ok [{ kind, start := .start, text := String.ofList text },
        Layout.endAt (Position.start.after text)] := by
  have hv : Layout.Valid { pieces := [{ gap := [], kind, text }], final := [] } := by
    refine Layout.valid_cons_iff.2 ⟨.nil, h, ?_, ?_⟩
    · simp [Layout.text]
    · exact ⟨by simp, by simp, .closed .nil, trivial⟩
  have hlex := lex_of_valid hv
  simp only [Layout.text, List.flatMap_cons, List.flatMap_nil, List.append_nil,
    List.nil_append] at hlex
  rw [hlex]
  rfl

/-- A script is lexed exactly when it can be laid out in lexemes with gaps
around them, none of which runs into the next.  There is only one way to do
this, and the tokens are the lexemes in their order, with the end behind. -/
theorem a_script_lexes_when_it_has_a_layout_and_it_has_only_one (source : String) :
    (∀ tokens, lex source = .ok tokens ↔
      ∃ l : Layout, l.Valid ∧ l.text = source.toList ∧ l.tokens = tokens) ∧
    ∀ l l' : Layout, l.Valid ∧ l.text = source.toList → l'.Valid ∧ l'.text = source.toList →
      l = l' := by
  refine ⟨fun tokens => ⟨?_, ?_⟩, ?_⟩
  · intro h
    obtain ⟨l, rest, hv, htext, -, -, hstop, hrest⟩ :=
      (Lexer.ofString source).exists_layout rfl rfl
    unfold lex at h
    rw [hrest] at h
    cases hf : Front.ofText rest with
    | lexeme kind text after => exact absurd hf (hstop kind text after)
    | nothing =>
      have hnil := Front.input_ofText rest
      rw [hf, Front.input] at hnil
      rw [hf, Lexer.takeFront, collect_ok] at h
      refine ⟨l, hv, by rw [htext, ← hnil, List.append_nil], ?_⟩
      rw [← Except.ok.inj h, Layout.tokens, Layout.tokensFrom_eq]
      rfl
    | _ => rw [hf, Lexer.takeFront, collect_error] at h; cases h
  · rintro ⟨l, hv, ht, rfl⟩
    rw [← lex_of_valid hv, ht, String.ofList_toList]
  · rintro l l' ⟨hv, ht⟩ ⟨hv', ht'⟩
    exact Layout.eq_of_text_eq hv hv' (ht.trans ht'.symm)

end ImageScript
