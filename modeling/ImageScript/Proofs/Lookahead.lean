-- How much of a script decides a token.  Where two scripts have the same bytes
-- up to one byte behind a token, they have the same token and the same tokens
-- before it, whatever comes after that byte.
import ImageScript.Proofs.Answers
import ImageScript.Proofs.Calls
import ImageScript.Proofs.Cuts

namespace ImageScript

/-! ## Texts with the same bytes in front -/

namespace Utf8

/-- Characters that fit into the bytes that two texts share are in both. -/
theorem exists_append_of_take_eq {n : Nat} {a b v : List Char}
    (h : (encode (a ++ b)).take n = (encode v).take n) (ha : length a ≤ n) :
    ∃ b', v = a ++ b' ∧ (encode b).take (n - length a) = (encode b').take (n - length a) := by
  induction a generalizing n v with
  | nil => exact ⟨v, rfl, h⟩
  | cons c a ih =>
    rw [length_cons] at ha
    have hsize : (String.utf8EncodeChar c).length = c.utf8Size := String.length_utf8EncodeChar c
    have hfull : (String.utf8EncodeChar c).take n = String.utf8EncodeChar c :=
      List.take_of_length_le (by omega)
    rw [List.cons_append, encode_cons, List.take_append, hsize, hfull] at h
    have hall := List.take_append_drop n (encode v)
    rw [← h, List.append_assoc] at hall
    cases v with
    | nil => exact absurd (List.append_eq_nil_iff.1 hall).1 String.utf8EncodeChar_ne_nil
    | cons d v =>
      obtain ⟨rfl, -⟩ := eq_of_utf8EncodeChar_append hall
      rw [encode_cons, List.take_append, hsize, hfull] at h
      obtain ⟨b', rfl, hb'⟩ := ih (List.append_cancel_left h) (by omega)
      refine ⟨b', rfl, ?_⟩
      rw [length_cons, ← Nat.sub_sub]
      exact hb'

/-- One byte in common is enough for the next character to be the same, or to
be beyond ASCII in both. -/
theorem head_of_take_eq {n : Nat} {b b' : List Char} (hn : 0 < n)
    (h : (encode b).take n = (encode b').take n) {c : Char} (hc : c ∈ b'.head?) :
    c ∈ b.head? ∨ Foreign c := by
  obtain ⟨cs', rfl⟩ := List.head?_eq_some_iff.1 hc
  obtain ⟨x, xs, hx⟩ := exists_firstByte c
  obtain ⟨n, rfl⟩ := Nat.exists_eq_succ_of_ne_zero (Nat.pos_iff_ne_zero.1 hn)
  by_cases hsize : c.utf8Size = 1
  · cases b with
    | nil =>
      rw [encode_cons, hx] at h
      cases h
    | cons d cs =>
      obtain ⟨y, ys, hy⟩ := exists_firstByte d
      rw [encode_cons, encode_cons, hx, hy] at h
      obtain ⟨rfl, -⟩ := List.cons.inj h
      rw [eq_of_firstByte hsize hx hy]
      exact Or.inl rfl
  · exact Or.inr (foreign_of_long hsize)

end Utf8

/-- A character beyond ASCII makes no lexeme longer. -/
theorem not_extends_of_foreign {text : List Char} {c : Char} (h : Foreign c) :
    ¬ Extends text c := by
  intro he
  cases he with
  | word _ hp =>
    rw [h.part] at hp
    cases hp
  | number _ hd =>
    rw [h.digit] at hd
    cases hd
  | @operator o longer _ hl =>
    apply h.operator longer
    rw [hl]
    exact List.mem_append_right _ List.mem_cons_self

namespace Lexer

/-! ## Lexers that see the same -/

/-- Two lexers stand at the same position, and what they have before them is
the same up to byte `m` of their scripts. -/
structure Alike (m : Nat) (s s' : Lexer) : Prop where
  position : s'.position = s.position
  ahead : ∃ cs cs', s.ahead = .text cs ∧ s'.ahead = .text cs' ∧
    (Utf8.encode cs).take (m - s.position.offset) =
      (Utf8.encode cs').take (m - s.position.offset)

/-- A token that is over before byte `m` is the token of both. -/
theorem Alike.read {m : Nat} {s s' : Lexer} (h : Alike m s s') {t : Token}
    (ht : s.read.1 = .ok t) (hk : t.kind ≠ .endOfInput) (hstop : t.span.stop < m) :
    s'.read.1 = .ok t ∧ Alike m s.read.2 s'.read.2 := by
  obtain ⟨hp, cs, cs', ha, ha', hsame⟩ := h
  rcases read_text_cases ha with ⟨-, hr⟩ | ⟨gap, kind, text, rest, rfl, hg, hl, he, hr⟩ |
    ⟨_, _, _, _, _, _, _, _, hr⟩
  · rw [hr] at ht
    cases ht
    exact absurd rfl hk
  · rw [hr] at ht
    cases ht
    -- the token and the gap before it lie inside the bytes that are the same
    have hsize : s.position.offset + Utf8.length (gap ++ text) < m := by
      unfold Token.span Span.stop at hstop
      rw [Token.length_ofList] at hstop
      dsimp only at hstop
      rw [Position.offset_after] at hstop
      rw [Utf8.length_append]
      omega
    rw [← List.append_assoc] at hsame
    obtain ⟨rest', rfl, hrest⟩ := Utf8.exists_append_of_take_eq hsame (by omega)
    have he' : ∀ c ∈ rest'.head?, ¬ Extends text c := by
      intro c hc
      rcases Utf8.head_of_take_eq (by omega) hrest hc with hc | hc
      · exact he c hc
      · exact not_extends_of_foreign hc
    have hr' := read_of_lexeme hg hl he' (s := s') (by rw [ha', List.append_assoc])
    rw [hr, hr', hp]
    refine ⟨rfl, rfl, rest, rest', rfl, rfl, ?_⟩
    dsimp only [moveTo]
    rw [Position.offset_after _ (gap ++ text), ← Nat.sub_sub]
    exact hrest
  · rw [hr] at ht
    cases ht

/-- So are all tokens of a run that are over before byte `m`. -/
theorem Alike.pullAll {m : Nat} {s s' : Lexer} (h : Alike m s s') {tokens : List Token}
    (htokens : (s.pullAll (List.replicate tokens.length .token)).1 =
      tokens.map fun t => some (.ok t))
    (hk : ∀ t ∈ tokens, t.kind ≠ .endOfInput) (hstop : ∀ t ∈ tokens, t.span.stop < m) :
    (s'.pullAll (List.replicate tokens.length .token)).1 = tokens.map (fun t => some (.ok t)) ∧
      (s'.pullAll (List.replicate tokens.length .token)).2.position =
        (s.pullAll (List.replicate tokens.length .token)).2.position := by
  induction tokens generalizing s s' with
  | nil => exact ⟨rfl, h.position⟩
  | cons t tokens ih =>
    obtain ⟨hkt, hk⟩ := List.forall_mem_cons.1 hk
    obtain ⟨hstopt, hstop⟩ := List.forall_mem_cons.1 hstop
    obtain ⟨hhead, htail⟩ := List.cons.inj htokens
    obtain ⟨hread, hnext⟩ := h.read (Option.some.inj hhead) hkt hstopt
    obtain ⟨hall, hposition⟩ := ih hnext htail hk hstop
    refine ⟨?_, hposition⟩
    rw [List.length_cons, List.replicate_succ, List.map_cons, ← hall, ← hread]
    rfl

end Lexer

/-! ## The law -/

theorem tokensIn_map_ok (tokens : List Token) :
    tokensIn (tokens.map fun t => some (.ok t)) = tokens := by
  induction tokens with
  | nil => rfl
  | cons t tokens ih => rw [List.map_cons, tokensIn_cons_ok, ih]

/-- Tokens that stand one behind the other are all over where the last one is. -/
theorem stop_lt_of_last {m : Nat} {tokens : List Token}
    (hpair : tokens.Pairwise fun t u => t.span.stop ≤ u.span.offset)
    (hlast : ∀ t ∈ tokens.getLast?, t.span.stop < m) : ∀ t ∈ tokens, t.span.stop < m := by
  rcases List.eq_nil_or_concat tokens with rfl | ⟨before, last, rfl⟩
  · intro t ht
    cases ht
  · rw [List.concat_eq_append] at hpair hlast ⊢
    have hstop : last.span.stop < m := hlast last List.getLast?_concat
    have hbefore := (List.pairwise_append.1 hpair).2.2
    intro t ht
    rcases List.mem_append.1 ht with ht | ht
    · have hle := hbefore t ht last List.mem_cons_self
      have hspan : last.span.offset ≤ last.span.stop := Nat.le_add_right _ _
      omega
    · rw [List.mem_singleton.1 ht]
      exact hstop

/-- If two scripts have the same first `m` bytes, and the first tokens of the
one are over before byte `m`, they are the first tokens of the other. -/
theorem one_byte_behind_a_token_decides_it (source source' : String) (m k : Nat)
    (hsame : (Utf8.encode source.toList).take m = (Utf8.encode source'.toList).take m)
    (tokens : List Token) (stop : Position)
    (htokens : Answers source (List.replicate k .token) (tokens.map fun t => some (.ok t)) stop)
    (hk : ∀ t ∈ tokens, t.kind ≠ .endOfInput) (hstop : ∀ t ∈ tokens.getLast?, t.span.stop < m) :
    Answers source' (List.replicate k .token) (tokens.map fun t => some (.ok t)) stop := by
  have hlength : tokens.length = k := by
    have hall := htokens.length_eq
    rw [List.length_map, List.length_replicate] at hall
    exact hall
  subst hlength
  obtain ⟨hanswers, rfl⟩ := answers_iff.1 htokens
  have hpair := (Lexer.cutFrom_pullAll (Lexer.standsIn_ofString source)
    (List.replicate tokens.length .token)).2
  rw [← hanswers, tokensIn_map_ok] at hpair
  have hbefore := stop_lt_of_last hpair hstop
  have halike : Lexer.Alike m (.ofString source) (.ofString source') :=
    ⟨rfl, source.toList, source'.toList, rfl, rfl, hsame⟩
  obtain ⟨hanswers', hposition⟩ := halike.pullAll hanswers.symm hk hbefore
  exact answers_iff.2 ⟨hanswers'.symm, hposition.symm⟩

/-- One hash behind two tokens decides them, whether it begins a comment or
stands alone. -/
theorem a_hash_decides_the_tokens_before_it :
    let tokens : List Token := [
      { kind := .identifier, start := .start, text := "a" },
      { kind := .operator .less, start := { line := 1, column := 2, offset := 1 }, text := "<" }]
    let stop : Position := { line := 1, column := 3, offset := 2 }
    (Utf8.encode "a<##é".toList).take 3 = (Utf8.encode "a<#\"".toList).take 3 ∧
      Answers "a<##é" (List.replicate 2 .token) (tokens.map fun t => some (.ok t)) stop ∧
      (∀ t ∈ tokens, t.kind ≠ .endOfInput) ∧ (∀ t ∈ tokens.getLast?, t.span.stop < 3) ∧
      Answers "a<#\"" (List.replicate 2 .token) (tokens.map fun t => some (.ok t)) stop := by
  intro tokens stop
  have hsame : (Utf8.encode "a<##é".toList).take 3 = (Utf8.encode "a<#\"".toList).take 3 := by
    decide +kernel
  have htokens : Answers "a<##é" (List.replicate 2 .token)
      (tokens.map fun t => some (.ok t)) stop := answers_iff.2 (by decide +kernel)
  have hk : ∀ t ∈ tokens, t.kind ≠ .endOfInput := by decide
  have hstop : ∀ t ∈ tokens.getLast?, t.span.stop < 3 := by decide
  exact ⟨hsame, htokens, hk, hstop,
    one_byte_behind_a_token_decides_it _ _ 3 2 hsame tokens stop htokens hk hstop⟩

end ImageScript
