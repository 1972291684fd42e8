-- The tokens of a script with other gaps between them.  Whatever is put around
-- and between them, blanks or comments, they are read back as the tokens that they
-- were, each where it was put.  One space between two tokens is always enough.
import ImageScript.Proofs.Calls
import ImageScript.Proofs.TokenCalls

namespace ImageScript

/-! ## Tokens in a new layout -/

/-- A token behind a gap. -/
def Piece.ofToken (gap : List Char) (t : Token) : Piece :=
  { gap, kind := t.kind, text := t.text.toList }

/-- Some tokens, each behind its gap, and a last gap behind them. -/
def Layout.ofTokens (gaps : List (List Char)) (tokens : List Token) (final : List Char) :
    Layout where
  pieces := List.zipWith Piece.ofToken gaps tokens
  final := final

theorem exists_of_mem_zipWith {gaps : List (List Char)} {tokens : List Token} {p : Piece}
    (h : p ∈ List.zipWith Piece.ofToken gaps tokens) :
    ∃ gap ∈ gaps, ∃ t ∈ tokens, p = Piece.ofToken gap t := by
  rw [← List.map_uncurry_zip_eq_zipWith] at h
  obtain ⟨⟨gap, t⟩, hmem, rfl⟩ := List.mem_map.1 h
  obtain ⟨hgap, ht⟩ := List.of_mem_zip hmem
  exact ⟨gap, hgap, t, ht, rfl⟩

namespace Layout

/-- Where every piece but the first has a gap, none runs into another. -/
theorem allApart_of_gaps {ps : List Piece} (h : ∀ p ∈ ps.tail, p.gap ≠ []) : AllApart ps := by
  induction ps with
  | nil => trivial
  | cons p ps ih =>
    cases ps with
    | nil => trivial
    | cons q qs =>
      obtain ⟨hq, hqs⟩ := List.forall_mem_cons.1 h
      refine ⟨?_, ih hqs⟩
      intro hnone
      exact absurd hnone hq

theorem valid_ofTokens {gaps : List (List Char)} {tokens : List Token} {final : List Char}
    (ht : ∀ t ∈ tokens, Lexeme t.kind t.text.toList) (hg : ∀ gap ∈ gaps, Gap gap)
    (hapart : ∀ gap ∈ gaps.tail, gap ≠ []) (hf : FinalGap final) :
    (ofTokens gaps tokens final).Valid := by
  refine ⟨?_, ?_, hf, ?_⟩
  · intro p hp
    obtain ⟨gap, hgap, t, -, rfl⟩ := exists_of_mem_zipWith hp
    exact hg gap hgap
  · intro p hp
    obtain ⟨gap, -, t, hmem, rfl⟩ := exists_of_mem_zipWith hp
    exact ht t hmem
  · apply allApart_of_gaps
    intro p hp
    simp only [ofTokens, List.tail_zipWith] at hp
    obtain ⟨gap, hgap, t, -, rfl⟩ := exists_of_mem_zipWith hp
    exact hapart gap hgap

/-- The token of a piece starts behind all pieces before it and its own gap. -/
theorem getElem?_tokensOf (p : Position) (ps : List Piece) (i : Nat) :
    (tokensOf p ps)[i]? = ps[i]?.map fun q =>
      { kind := q.kind, start := p.after (text { pieces := ps.take i, final := q.gap }),
        text := String.ofList q.text } := by
  induction ps generalizing p i with
  | nil => rfl
  | cons q qs ih =>
    cases i with
    | zero => rfl
    | succ i =>
      rw [tokensOf, List.getElem?_cons_succ, List.getElem?_cons_succ, ih]
      congr 1
      funext r
      simp only [List.take_succ_cons, text_cons, Position.after_append]

theorem length_tokensOf (p : Position) (ps : List Piece) : (tokensOf p ps).length = ps.length := by
  induction ps generalizing p with
  | nil => rfl
  | cons q qs ih => simp [tokensOf, ih]

/-- What does not hang on the place of a token stays in a new layout. -/
theorem map_tokensOf {α : Type} {f : Token → α} (hf : ∀ t p, f { t with start := p } = f t)
    {gaps : List (List Char)} {tokens : List Token} (h : gaps.length = tokens.length)
    (p : Position) :
    (tokensOf p (List.zipWith Piece.ofToken gaps tokens)).map f = tokens.map f := by
  induction gaps generalizing tokens p with
  | nil =>
    cases tokens with
    | nil => rfl
    | cons t tokens => cases h
  | cons gap gaps ih =>
    cases tokens with
    | nil => cases h
    | cons t tokens =>
      have hhead : f { kind := t.kind, start := p.after gap,
                       text := String.ofList t.text.toList } = f t := by
        rw [String.ofList_toList]
        exact hf t _
      rw [List.zipWith_cons_cons, tokensOf, List.map_cons, List.map_cons, ih (Nat.succ.inj h)]
      exact congrArg (· :: tokens.map f) hhead

theorem map_tokens_ofTokens {α : Type} {f : Token → α}
    (hf : ∀ t p, f { t with start := p } = f t) {gaps : List (List Char)} {tokens : List Token}
    (h : gaps.length = tokens.length) (final : List Char) (stop : Position) :
    (ofTokens gaps tokens final).tokens.map f = (tokens ++ [endAt stop]).map f := by
  have hend : ∀ p, f (endAt p) = f (endAt stop) := by
    intro p
    exact hf (endAt stop) p
  rw [Layout.tokens, tokensFrom_eq, List.map_append, List.map_append, List.map_singleton,
    List.map_singleton, hend]
  congr 1
  exact map_tokensOf hf h .start

end Layout

/-! ## One space between two tokens -/

/-- The texts of some tokens with a space between each and the next.  The end of
the input has no text. -/
def printed (tokens : List Token) : String :=
  " ".intercalate ((tokens.filter (·.kind ≠ .endOfInput)).map (·.text))

/-- No gap, and then gaps of one space. -/
def singleSpaces : Nat → List (List Char)
  | 0 => []
  | n + 1 => [] :: List.replicate n [' ']

theorem length_singleSpaces (n : Nat) : (singleSpaces n).length = n := by
  cases n <;> simp [singleSpaces]

theorem gap_of_mem_singleSpaces {n : Nat} {gap : List Char} (h : gap ∈ singleSpaces n) :
    Gap gap := by
  cases n with
  | zero => cases h
  | succ n =>
    rcases List.mem_cons.1 h with rfl | h
    · exact .nil
    · rw [List.eq_of_mem_replicate h]
      exact .blank rfl .nil

theorem ne_nil_of_mem_tail_singleSpaces {n : Nat} {gap : List Char}
    (h : gap ∈ (singleSpaces n).tail) : gap ≠ [] := by
  cases n with
  | zero => cases h
  | succ n =>
    rw [List.eq_of_mem_replicate h]
    exact List.cons_ne_nil _ _

/-- The layout with a single space between two tokens. -/
def Layout.spaced (tokens : List Token) : Layout :=
  ofTokens (singleSpaces tokens.length) tokens []

theorem map_tokens_spaced {α : Type} {f : Token → α}
    (hf : ∀ t p, f { t with start := p } = f t) (tokens : List Token) (stop : Position) :
    (Layout.spaced tokens).tokens.map f = (tokens ++ [Layout.endAt stop]).map f :=
  Layout.map_tokens_ofTokens hf (length_singleSpaces tokens.length) [] stop

/-- The texts behind a first one, each with a space before it. -/
theorem toList_intercalate_space (t : String) (ts : List String) :
    (" ".intercalate (t :: ts)).toList = t.toList ++ ts.flatMap fun u => ' ' :: u.toList := by
  induction ts generalizing t with
  | nil => simp
  | cons u us ih =>
    rw [String.intercalate_cons_cons, String.toList_append, String.toList_append, ih]
    simp

theorem flatMap_zipWith_replicate (tokens : List Token) :
    (List.zipWith Piece.ofToken (List.replicate tokens.length [' ']) tokens).flatMap
        (fun p => p.gap ++ p.text) =
      tokens.flatMap fun t => ' ' :: t.text.toList := by
  induction tokens with
  | nil => rfl
  | cons t tokens ih =>
    rw [List.length_cons, List.replicate_succ, List.zipWith_cons_cons, List.flatMap_cons, ih]
    rfl

theorem toList_intercalate_texts (tokens : List Token) :
    (" ".intercalate (tokens.map (·.text))).toList = (Layout.spaced tokens).text := by
  cases tokens with
  | nil => rfl
  | cons t tokens =>
    have hrest := flatMap_zipWith_replicate tokens
    simp only [Layout.spaced, Layout.ofTokens, Layout.text, List.length_cons, singleSpaces,
      List.zipWith_cons_cons, List.flatMap_cons, hrest, List.append_nil]
    rw [List.map_cons, toList_intercalate_space, List.flatMap_map]
    rfl

/-- Only kinds and texts are printed. -/
theorem printed_congr {tokens tokens' : List Token}
    (h : tokens.map (fun t => (t.kind, t.text)) = tokens'.map fun t => (t.kind, t.text)) :
    printed tokens = printed tokens' := by
  have hpairs : ∀ ts : List Token, (ts.filter (·.kind ≠ .endOfInput)).map (·.text) =
      ((ts.map fun t => (t.kind, t.text)).filter (·.1 ≠ .endOfInput)).map (·.2) := by
    intro ts
    rw [List.filter_map, List.map_map]
    rfl
  unfold printed
  rw [hpairs, hpairs, h]

theorem printed_concat {lexemes : List Token} (h : ∀ t ∈ lexemes, t.kind ≠ .endOfInput)
    (stop : Position) :
    printed (lexemes ++ [Layout.endAt stop]) = " ".intercalate (lexemes.map (·.text)) := by
  have hall : ∀ t ∈ lexemes, decide (t.kind ≠ .endOfInput) = true := by
    intro t ht
    exact decide_eq_true (h t ht)
  have hend : [Layout.endAt stop].filter (·.kind ≠ .endOfInput) = [] := rfl
  unfold printed
  rw [List.filter_append, List.filter_eq_self.2 hall, hend, List.append_nil]

/-! ## The tokens of a script -/

/-- A script that is lexed has lexemes, and then its end. -/
theorem exists_lexemes_of_lex {source : String} {tokens : List Token}
    (h : lex source = .ok tokens) :
    ∃ lexemes stop, tokens = lexemes ++ [Layout.endAt stop] ∧
      ∀ t ∈ lexemes, Lexeme t.kind t.text.toList := by
  obtain ⟨lexemes, hkinds, hrow, ⟨t, hk, ht, hlex⟩ | ⟨e, -, hlex⟩⟩ := exists_lex_eq_answers source
  · have htokens : tokens = lexemes ++ [t] := Except.ok.inj (h.symm.trans hlex)
    have hend : t = Layout.endAt t.start := by
      rcases Lexer.end_or_lexeme_of_read ht with hend | hl
      · exact hend
      · exact absurd hk hl.kind_ne_endOfInput
    refine ⟨lexemes, t.start, by rw [htokens, ← hend], ?_⟩
    intro u hu
    have hmem : Except.ok u ∈ (Lexer.ofString source).firstAnswers lexemes.length := by
      rw [hrow]
      exact List.mem_map_of_mem hu
    obtain ⟨j, -, hj⟩ := List.mem_map.1 hmem
    rcases Lexer.end_or_lexeme_of_read hj with hend | hl
    · exact absurd (congrArg Token.kind hend) (hkinds u hu)
    · exact hl
  · rw [h] at hlex
    cases hlex

/-- Lexemes in a new layout are lexed into themselves, each where it was put. -/
theorem lex_ofTokens {gaps : List (List Char)} {lexemes : List Token} {final : List Char}
    (ht : ∀ t ∈ lexemes, Lexeme t.kind t.text.toList) (hg : ∀ gap ∈ gaps, Gap gap)
    (hapart : ∀ gap ∈ gaps.tail, gap ≠ []) (hf : FinalGap final) :
    lex (String.ofList (Layout.ofTokens gaps lexemes final).text) =
      .ok (Layout.ofTokens gaps lexemes final).tokens :=
  lex_of_valid (Layout.valid_ofTokens ht hg hapart hf)

/-- Lexemes with single spaces between them are lexed into themselves. -/
theorem lex_printed {lexemes : List Token} (hl : ∀ t ∈ lexemes, Lexeme t.kind t.text.toList)
    (stop : Position) :
    lex (printed (lexemes ++ [Layout.endAt stop])) = .ok (Layout.spaced lexemes).tokens := by
  have htext : printed (lexemes ++ [Layout.endAt stop]) =
      String.ofList (Layout.spaced lexemes).text := by
    rw [printed_concat (fun t ht => (hl t ht).kind_ne_endOfInput), ← toList_intercalate_texts,
      String.ofList_toList]
  rw [htext]
  apply lex_ofTokens hl
  · intro gap hgap
    exact gap_of_mem_singleSpaces hgap
  · intro gap hgap
    exact ne_nil_of_mem_tail_singleSpaces hgap
  · exact .closed .nil

/-! ## The law -/

/-- If a script is lexed, its tokens before the end can be given any gaps, as
long as there is something between two of them.  They are lexed again into the
same tokens, each where it was put, with the end behind.  So are their texts with
single spaces between them, and to print the result once more changes nothing. -/
theorem a_script_can_be_spaced_anew (source : String) (tokens : List Token)
    (h : lex source = .ok tokens) :
    ∃ lexemes stop, tokens = lexemes ++ [Layout.endAt stop] ∧
      (∀ t ∈ lexemes, t.kind ≠ .endOfInput) ∧
      (∀ gaps final, gaps.length = lexemes.length → (∀ gap ∈ gaps, Gap gap) →
        (∀ gap ∈ gaps.tail, gap ≠ []) → FinalGap final →
        ∃ placed, lex (String.ofList (Layout.ofTokens gaps lexemes final).text) =
            .ok (placed ++
              [Layout.endAt (Position.start.after (Layout.ofTokens gaps lexemes final).text)]) ∧
          placed.length = lexemes.length ∧
          ∀ i gap (t : Token), gaps[i]? = some gap → lexemes[i]? = some t →
            placed[i]? = some { t with
              start := Position.start.after
                (Layout.ofTokens (gaps.take i) (lexemes.take i) gap).text }) ∧
      ∃ again, lex (printed tokens) = .ok again ∧
        again.map (fun t => (t.kind, t.text, t.number?, t.contents?)) =
          tokens.map (fun t => (t.kind, t.text, t.number?, t.contents?)) ∧
        lex (printed again) = .ok again := by
  obtain ⟨lexemes, stop, rfl, hl⟩ := exists_lexemes_of_lex h
  refine ⟨lexemes, stop, rfl, fun t ht => (hl t ht).kind_ne_endOfInput, ?_, ?_⟩
  · intro gaps final hlength hg hapart hf
    have hlex := lex_ofTokens hl hg hapart hf
    rw [Layout.tokens, Layout.tokensFrom_eq] at hlex
    refine ⟨_, hlex, ?_, ?_⟩
    · rw [Layout.length_tokensOf, Layout.ofTokens, List.length_zipWith, hlength, Nat.min_self]
    · intro i gap t hgap ht
      have hpiece : (List.zipWith Piece.ofToken gaps lexemes)[i]? =
          some (Piece.ofToken gap t) := by
        rw [List.getElem?_zipWith, hgap, ht]
      rw [Layout.getElem?_tokensOf, Layout.ofTokens, hpiece, List.take_zipWith]
      simp only [Option.map_some, Piece.ofToken, String.ofList_toList]
      rfl
  · -- the printed texts hang on no place, so neither does what they are lexed into
    have hlex := lex_printed hl stop
    refine ⟨_, hlex, map_tokens_spaced (fun t p => rfl) lexemes stop, ?_⟩
    rw [printed_congr (map_tokens_spaced (fun t p => rfl) lexemes stop)]
    exact hlex

/-- A string that holds two hashes, between a keyword and a number: with comments
around it, and with single spaces. -/
theorem a_string_of_hashes_can_be_spaced_anew :
    ∃ tokens, lex "if\"## \"0##é" = .ok tokens ∧
      (∃ placed stop, lex "##é\nif \"## \"##\"\n0" = .ok (placed ++ [Layout.endAt stop]) ∧
        placed[2]? = some { kind := .literal .number, text := "0",
                            start := { line := 3, column := 1, offset := 17 } }) ∧
      ∃ again, lex "if \"## \" 0" = .ok again ∧
        again.map (fun t => (t.kind, t.text, t.number?, t.contents?)) =
          tokens.map (fun t => (t.kind, t.text, t.number?, t.contents?)) ∧
        lex (printed again) = .ok again := by
  have h : lex "if\"## \"0##é" = .ok ([
      { kind := .keyword .beginIf, start := .start, text := "if" },
      { kind := .literal .string, start := { line := 1, column := 3, offset := 2 },
        text := "\"## \"" },
      { kind := .literal .number, start := { line := 1, column := 8, offset := 7 },
        text := "0" }] ++
      [Layout.endAt { line := 1, column := 13, offset := 12 }]) := by
    decide +kernel
  obtain ⟨lexemes, stop, htokens, -, hlaw, hagain⟩ := a_script_can_be_spaced_anew _ _ h
  obtain ⟨rfl, -⟩ := List.append_inj' htokens rfl
  have hg : ∀ gap ∈ [['#', '#', 'é', '\n'], [' '], ['#', '#', '"', '\n']], Gap gap := by
    simp only [List.forall_mem_cons]
    exact ⟨@Gap.comment ['é'] [] (by decide) .nil, .blank rfl .nil,
      @Gap.comment ['"'] [] (by decide) .nil, List.forall_mem_nil _⟩
  obtain ⟨placed, hplaced, -, hat⟩ := hlaw _ [] rfl hg (by decide) (.closed .nil)
  exact ⟨_, h, ⟨placed, _, hplaced, hat 2 _ _ rfl rfl⟩, hagain⟩

end ImageScript
