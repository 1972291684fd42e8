-- What the grammar says is what is read: a lexeme is read back whole from the
-- front of a text that does not extend it, and a text with a fault in front is
-- read as that fault.  The other way round stands in `Grammar.Reading`.
import ImageScript.Grammar.Reading
import ImageScript.Lexer
import ImageScript.Proofs.Ascii
import Mathlib.Data.List.TakeWhile

namespace ImageScript

/-! ## Where a run of characters stops -/

theorem takeWhile_append_of_stop {p : Char → Bool} {a b : List Char} (ha : a.all p = true)
    (hb : ∀ c ∈ b.head?, p c = false) : (a ++ b).takeWhile p = a := by
  rw [List.takeWhile_append_of_pos fun c hc => List.all_eq_true.1 ha c hc]
  cases b with
  | nil => rw [List.takeWhile_nil, List.append_nil]
  | cons c b => rw [List.takeWhile_cons_of_neg (by simp [hb c rfl]), List.append_nil]

theorem dropWhile_append_of_stop {p : Char → Bool} {a b : List Char} (ha : a.all p = true)
    (hb : ∀ c ∈ b.head?, p c = false) : (a ++ b).dropWhile p = b := by
  rw [List.dropWhile_append_of_pos fun c hc => List.all_eq_true.1 ha c hc]
  cases b with
  | nil => rfl
  | cons c b => rw [List.dropWhile_cons_of_neg (by simp [hb c rfl])]

/-! ## Characters of gaps -/

/-- A blank or a hash makes no lexeme longer. -/
theorem not_extends_of_gap {text : List Char} {c : Char} (hc : isBlank c = true ∨ c = '#') :
    ¬ Extends text c := by
  have hlow : c.toNat ≤ 35 := by
    rcases hc with hc | rfl
    · have := toNat_of_isBlank hc
      omega
    · exact Nat.le_refl 35
  intro h
  cases h with
  | word _ h =>
    have := toNat_of_isPart h
    omega
  | number _ h =>
    have := toNat_of_isDigit h
    omega
  | @operator o longer _ h =>
    have hmem : c ∈ longer.spelling := by
      rw [h]
      exact List.mem_append_right _ List.mem_cons_self
    rcases hc with hc | rfl
    · have := toNat_of_isBlank hc
      have := Operator.toNat_of_mem_spelling hmem
      omega
    · cases longer <;> revert hmem <;> decide

theorem Gap.head {g : List Char} (h : Gap g) : ∀ c ∈ g.head?, isBlank c = true ∨ c = '#' := by
  intro c hc
  cases h with
  | nil => cases hc
  | blank hb _ => cases hc; exact Or.inl hb
  | comment _ _ => cases hc; exact Or.inr rfl

theorem FinalGap.head {g : List Char} (h : FinalGap g) :
    ∀ c ∈ g.head?, isBlank c = true ∨ c = '#' := by
  cases h with
  | closed h => exact h.head
  | @opened g body h _ =>
    intro c hc
    cases g with
    | nil => cases hc; exact Or.inr rfl
    | cons d g => exact h.head c hc

/-! ## Lexemes -/

/-- A lexeme starts with no blank and with no hash, so no gap runs into it. -/
theorem Lexeme.head {kind : Kind} {text : List Char} (h : Lexeme kind text) :
    ∃ c cs, text = c :: cs ∧ isBlank c = false ∧ c ≠ '#' := by
  have hstart : ∀ {c : Char}, 48 ≤ c.toNat → isBlank c = false ∧ c ≠ '#' := by
    intro c hc
    refine ⟨isBlank_eq_false_of_lt (by omega), ?_⟩
    rintro rfl
    exact absurd hc (by decide)
  cases h with
  | operator o => cases o <;> exact ⟨_, _, rfl, by decide, by decide⟩
  | word hc _ =>
    have := toNat_of_isPart (Word.isPart_of_isStart hc)
    exact ⟨_, _, rfl, hstart this.1⟩
  | zero => exact ⟨_, _, rfl, by decide, by decide⟩
  | @number d ds hd _ _ =>
    have := toNat_of_isDigit (isDigit_of_isLeadingDigit hd)
    exact ⟨_, _, rfl, hstart this.1⟩
  | string _ => exact ⟨_, _, rfl, by decide, by decide⟩

/-- Only the end of the input has its kind, and it is no lexeme. -/
theorem Lexeme.kind_ne_endOfInput {kind : Kind} {text : List Char} (h : Lexeme kind text) :
    kind ≠ .endOfInput := by
  cases h with
  | word _ _ =>
    unfold Word.kindOf
    split
    · exact Kind.noConfusion
    · split_ifs <;> exact Kind.noConfusion
  | _ => exact Kind.noConfusion

/-- The first character of an operator is an operator itself, so what is no
operator begins none. -/
theorem Operator.ofSpelling?_cons_eq_none {c : Char} (h : ofSpelling? [c] = none)
    (cs : List Char) : ofSpelling? (c :: cs) = none := by
  have hshort : ∀ o : Operator, o.spelling.head?.all (fun d => (ofSpelling? [d]).isSome) = true := by
    intro o
    cases o <;> rfl
  rw [Option.eq_none_iff_forall_ne_some]
  intro o ho
  have hc := hshort o
  rw [ofSpelling?_eq_some_iff.1 ho, List.head?_cons, Option.all_some, h] at hc
  cases hc

namespace Front

theorem ofOperator_of_short {o : Operator} {c : Char} (ho : Operator.ofSpelling? [c] = some o)
    {cs : List Char} (h : ∀ d ∈ cs.head?, Operator.ofSpelling? [c, d] = none) :
    ofOperator c cs = .lexeme (.operator o) [c] cs := by
  unfold ofOperator
  cases cs with
  | nil => simp only [ofShortOperator, ho]
  | cons d cs =>
    have hlong := h d rfl
    simp only [hlong, ofShortOperator, ho]

theorem ofOperator_of_none {c : Char} (h : Operator.ofSpelling? [c] = none) (cs : List Char) :
    ofOperator c cs = .unexpected c cs := by
  have hnone := Operator.ofSpelling?_cons_eq_none h
  unfold ofOperator
  cases cs with
  | nil => simp only [ofShortOperator, h]
  | cons d cs => simp only [hnone, ofShortOperator]

/-- A character that no word, number, string or comment starts with is read as
an operator. -/
theorem ofText_cons_of_mark {c : Char}
    (h : Word.isStart c = false ∧ c.isDigit = false ∧ c ≠ '"' ∧ c ≠ '#') (cs : List Char) :
    ofText (c :: cs) = ofOperator c cs := by
  obtain ⟨hs, hd, hq, hh⟩ := h
  have h0 : c ≠ '0' := by
    rintro rfl
    revert hd
    decide
  simp only [ofText, if_neg hh, if_neg hq, if_neg h0, hd, hs, Bool.false_eq_true, if_false]

theorem ofText_cons_of_isStart {c : Char} (hc : Word.isStart c = true) (cs : List Char) :
    ofText (c :: cs) = ofWord (c :: cs) := by
  have hh : c ≠ '#' := by rintro rfl; revert hc; decide
  have hq : c ≠ '"' := by rintro rfl; revert hc; decide
  have h0 : c ≠ '0' := by rintro rfl; revert hc; decide
  have hd := isDigit_eq_false_of_isStart hc
  simp only [ofText, if_neg hh, if_neg hq, if_neg h0, hd, hc, Bool.false_eq_true, if_false,
    if_true]

theorem ofText_cons_of_isLeadingDigit {d : Char} (hd : isLeadingDigit d = true) (cs : List Char) :
    ofText (d :: cs) = ofNumber (d :: cs) := by
  unfold isLeadingDigit at hd
  simp only [Bool.and_eq_true, decide_eq_true_eq] at hd
  have hh : d ≠ '#' := by rintro rfl; revert hd; decide
  have hq : d ≠ '"' := by rintro rfl; revert hd; decide
  simp only [ofText, if_neg hh, if_neg hq, if_neg hd.2, hd.1, if_true]

/-- A lexeme is read back from the front of a text that does not extend it. -/
theorem ofText_append_of_lexeme {kind : Kind} {text rest : List Char} (h : Lexeme kind text)
    (hr : ∀ c ∈ rest.head?, ¬ Extends text c) :
    ofText (text ++ rest) = .lexeme kind text rest := by
  cases h with
  | operator o =>
    have hread : ∀ {cs : List Char}, o.spelling = cs → Operator.ofSpelling? cs = some o :=
      fun h => Operator.ofSpelling?_eq_some_iff.2 h
    rcases o.spelling_eq_one_or_two with ⟨a, ho⟩ | ⟨a, b, ho⟩
    · have hlong : ∀ d ∈ rest.head?, Operator.ofSpelling? [a, d] = none := by
        intro d hd
        rw [Option.eq_none_iff_forall_ne_some]
        intro longer hl
        have hl := Operator.ofSpelling?_eq_some_iff.1 hl
        apply hr d hd
        exact .operator (by rw [hl, ho]; rfl)
      rw [ho, List.cons_append, List.nil_append, ofText_cons_of_mark (head_spelling ho)]
      exact ofOperator_of_short (hread ho) hlong
    · rw [ho, List.cons_append, List.cons_append, List.nil_append,
        ofText_cons_of_mark (head_spelling ho)]
      simp only [ofOperator, hread ho]
  | @word c cs hc hcs =>
    have hall := all_isPart_of_isStart hc hcs
    have hstop : ∀ d ∈ rest.head?, Word.isPart d = false := by
      intro d hd
      rw [Bool.eq_false_iff]
      exact fun hp => hr d hd (.word hc hp)
    rw [List.cons_append, ofText_cons_of_isStart hc, ← List.cons_append]
    unfold ofWord
    rw [takeWhile_append_of_stop hall hstop, dropWhile_append_of_stop hall hstop]
  | zero => rfl
  | @number d ds hd hds hv =>
    have hall := all_isDigit_of_isLeadingDigit hd hds
    have hstop : ∀ c ∈ rest.head?, c.isDigit = false := by
      intro c hc
      rw [Bool.eq_false_iff]
      exact fun hp => hr c hc (.number hd hp)
    rw [List.cons_append, ofText_cons_of_isLeadingDigit hd, ← List.cons_append]
    unfold ofNumber
    rw [takeWhile_append_of_stop hall hstop, dropWhile_append_of_stop hall hstop]
    exact if_pos hv
  | @string body hb =>
    have hstop : ∀ c ∈ (('"' :: rest).head?), isStringChar c = false := by
      intro c hc
      cases hc
      decide
    have ht : '"' :: body ++ ['"'] ++ rest = '"' :: (body ++ '"' :: rest) := by simp
    rw [ht]
    show ofString (body ++ '"' :: rest) = _
    unfold ofString
    rw [takeWhile_append_of_stop hb hstop, dropWhile_append_of_stop hb hstop]
    rfl

/-! ## Faults -/

theorem ofText_of_startsNothing {c : Char} (hc : StartsNothing c) (cs : List Char) :
    ofText (c :: cs) = .unexpected c cs := by
  obtain ⟨-, hh, hq, hd, hs, ho⟩ := hc
  have hnone : Operator.ofSpelling? [c] = none := by
    rw [Option.eq_none_iff_forall_ne_some]
    intro o hsome
    exact ho o (Operator.ofSpelling?_eq_some_iff.1 hsome)
  rw [ofText_cons_of_mark ⟨hs, hd, hq, hh⟩]
  exact ofOperator_of_none hnone cs

theorem ofString_append_of_stop {body rest : List Char} {c : Char}
    (hb : body.all isStringChar = true) (hc : isStringChar c = false) (hq : c ≠ '"') :
    ofString (body ++ c :: rest) = .illegalInString body c rest := by
  have hstop : ∀ d ∈ (c :: rest).head?, isStringChar d = false := by
    intro d hd
    cases hd
    exact hc
  unfold ofString
  rw [takeWhile_append_of_stop hb hstop, dropWhile_append_of_stop hb hstop]
  exact if_neg hq

theorem ofString_of_all {body : List Char} (hb : body.all isStringChar = true) :
    ofString body = .unterminatedString body := by
  have hall : ∀ c ∈ body, isStringChar c = true := List.all_eq_true.1 hb
  unfold ofString
  rw [List.takeWhile_eq_self_iff.2 hall, List.dropWhile_eq_nil_iff.2 hall]

theorem ofText_append_of_tooLarge {d : Char} {ds rest : List Char} (hd : isLeadingDigit d = true)
    (hds : ds.all Char.isDigit = true) (hstop : ∀ c ∈ rest.head?, c.isDigit = false)
    (hv : Decimal.maxInt < Decimal.value (d :: ds)) :
    ofText (d :: ds ++ rest) = .tooLarge (d :: ds) rest := by
  have hall := all_isDigit_of_isLeadingDigit hd hds
  rw [List.cons_append, ofText_cons_of_isLeadingDigit hd, ← List.cons_append]
  unfold ofNumber
  rw [takeWhile_append_of_stop hall hstop, dropWhile_append_of_stop hall hstop]
  exact if_neg (Nat.not_le_of_lt hv)

end Front

/-- A text with a fault in front is read as that fault, where it lies. -/
theorem Lexer.takeFront_of_faulty {before stretch after : List Char} {fault : Fault}
    (h : Faulty before stretch after fault) (s : Lexer) (p : Position) :
    (s.takeFront p (Front.ofText (before ++ stretch ++ after))).1 =
      .error { fault, start := p.after before, length := Utf8.length stretch } := by
  cases h with
  | unexpectedCharacter hc =>
    rw [List.nil_append, List.cons_append, List.nil_append, Front.ofText_of_startsNothing hc]
    rfl
  | loneHash _ => rfl
  | @illegalInString body _ c hb hc hq =>
    have ht : '"' :: body ++ [c] ++ after = '"' :: (body ++ c :: after) := by simp
    have hf : Front.ofText ('"' :: (body ++ c :: after)) = .illegalInString body c after :=
      Front.ofString_append_of_stop hb hc hq
    rw [ht, hf]
    rfl
  | @unterminatedString body hb =>
    have hf : Front.ofText ('"' :: body) = .unterminatedString body := Front.ofString_of_all hb
    rw [List.nil_append, List.append_nil, hf]
    rfl
  | @numberTooLarge d ds _ hd hds hstop hv =>
    rw [List.nil_append, Front.ofText_append_of_tooLarge hd hds hstop hv]
    rfl

end ImageScript
