-- What is read at the front of a text keeps to the grammar: a lexeme that was
-- read is one and cannot be longer, and where none was read there is a fault.
import ImageScript.Grammar

namespace ImageScript

/-! ## Heads and tails -/

/-- Dropping stops at a character that is not to be dropped. -/
theorem mem_head?_dropWhile {p : Char → Bool} {cs : List Char} {c : Char}
    (h : c ∈ (cs.dropWhile p).head?) : p c = false := by
  have := List.head?_dropWhile_not p cs
  rw [Option.mem_def.1 h] at this
  simpa using this

/-- The three ways in which a lexeme can go on. -/
theorem extends_cons_iff {c d : Char} {cs : List Char} :
    Extends (c :: cs) d ↔
      (Word.isStart c = true ∧ Word.isPart d = true) ∨
      (isLeadingDigit c = true ∧ d.isDigit = true) ∨
      ∃ o longer : Operator, o.spelling = c :: cs ∧ longer.spelling = c :: cs ++ [d] := by
  constructor
  · intro h
    generalize ht : c :: cs = text at h
    cases h with
    | word h h' => cases ht; exact .inl ⟨h, h'⟩
    | number h h' => cases ht; exact .inr (.inl ⟨h, h'⟩)
    | @operator o longer _ h => exact .inr (.inr ⟨o, longer, rfl, h⟩)
  · rintro (⟨h, h'⟩ | ⟨h, h'⟩ | ⟨o, longer, ho, hl⟩)
    · exact .word h h'
    · exact .number h h'
    · rw [← ho] at hl ⊢
      exact .operator hl

/-- No operator begins like a word, a number, a string or a comment. -/
theorem head_spelling {o : Operator} {c : Char} {cs : List Char} (h : o.spelling = c :: cs) :
    Word.isStart c = false ∧ c.isDigit = false ∧ c ≠ '"' ∧ c ≠ '#' := by
  cases o <;> cases h <;> decide

/-- No word starts with a digit. -/
theorem isDigit_eq_false_of_isStart {c : Char} (h : Word.isStart c = true) :
    c.isDigit = false := by
  rw [Bool.eq_false_iff]
  intro hd
  have hd := (Char.isDigit_iff_toNat.1 hd).2
  have h9 : '9'.toNat = 57 := rfl
  have hA : 'A'.val.toNat = 65 := rfl
  have ha : 'a'.val.toNat = 97 := rfl
  have hc : c.toNat = c.val.toNat := rfl
  have hw : (decide (c.val ≥ 'A'.val ∧ c.val ≤ 'Z'.val)
      || (decide (c.val ≥ 'a'.val) && decide (c.val ≤ 'z'.val)) || decide (c = '_')) = true := h
  simp only [Bool.or_eq_true, Bool.and_eq_true, decide_eq_true_eq, ge_iff_le,
    UInt32.le_iff_toNat_le] at hw
  rcases hw with (hw | hw) | rfl
  · omega
  · omega
  · revert hd
    decide

/-! ## Readings -/

/-- What a reading says about the text it was taken from: a lexeme cannot be
longer, and everything else is a fault. -/
def Front.Sound : Front → Prop
  | .nothing => True
  | .lexeme kind text rest => Lexeme kind text ∧ ∀ c ∈ rest.head?, ¬ Extends text c
  | .loneHash rest => Faulty [] ['#'] rest .loneHash
  | .illegalInString body c rest => Faulty ('"' :: body) [c] rest (.illegalInString c)
  | .unterminatedString body => Faulty [] ('"' :: body) [] .unterminatedString
  | .tooLarge digits rest => Faulty [] digits rest (.numberTooLarge (String.ofList digits))
  | .unexpected c rest => Faulty [] [c] rest (.unexpectedCharacter c)

theorem Front.sound_ofString (cs : List Char) : (ofString cs).Sound := by
  unfold ofString
  have hb : (cs.takeWhile isStringChar).all isStringChar = true := List.all_takeWhile
  split
  · exact .unterminatedString hb
  · next c rest hr =>
    have hc : isStringChar c = false := mem_head?_dropWhile (show c ∈ _ by rw [hr]; rfl)
    dsimp only
    split
    · refine ⟨.string hb, fun d _ he => ?_⟩
      rcases extends_cons_iff.1 he with ⟨h, _⟩ | ⟨h, _⟩ | ⟨o, _, ho, _⟩
      · revert h; decide
      · revert h; decide
      · exact (head_spelling ho).2.2.1 rfl
    · next hq => exact .illegalInString hb hc hq

theorem Front.sound_ofNumber {c : Char} (hc : isLeadingDigit c = true) (cs : List Char) :
    (ofNumber (c :: cs)).Sound := by
  have hd : c.isDigit = true := by simp_all [isLeadingDigit]
  have hrest : ∀ d ∈ (cs.dropWhile Char.isDigit).head?, d.isDigit = false :=
    fun d h => mem_head?_dropWhile h
  unfold ofNumber
  rw [List.takeWhile_cons_of_pos hd, List.dropWhile_cons_of_pos hd]
  dsimp only
  split
  · next hv =>
    refine ⟨.number hc List.all_takeWhile hv, fun d h he => ?_⟩
    rcases extends_cons_iff.1 he with ⟨hs, _⟩ | ⟨_, h'⟩ | ⟨o, _, ho, _⟩
    · simp [isDigit_eq_false_of_isStart hs] at hd
    · simp [hrest d h] at h'
    · simp [(head_spelling ho).2.1] at hd
  · next hv => exact .numberTooLarge hc List.all_takeWhile hrest (Nat.lt_of_not_le hv)

theorem Front.sound_ofWord {c : Char} (hc : Word.isStart c = true) (cs : List Char) :
    (ofWord (c :: cs)).Sound := by
  unfold ofWord
  rw [List.takeWhile_cons_of_pos (Word.isPart_of_isStart hc),
    List.dropWhile_cons_of_pos (Word.isPart_of_isStart hc)]
  refine ⟨.word hc List.all_takeWhile, fun d h he => ?_⟩
  rcases extends_cons_iff.1 he with ⟨_, h'⟩ | ⟨h', _⟩ | ⟨o, _, ho, _⟩
  · simp [mem_head?_dropWhile h] at h'
  · simp [isLeadingDigit, isDigit_eq_false_of_isStart hc] at h'
  · simp [(head_spelling ho).1] at hc

/-- An operator that has been read is not continued by what follows it, if no
operator is spelled so. -/
theorem not_extends_spelling {o : Operator} {d : Char}
    (h : ∀ longer : Operator, longer.spelling ≠ o.spelling ++ [d]) : ¬ Extends o.spelling d := by
  intro he
  obtain ⟨c, cs, ho⟩ : ∃ c cs, o.spelling = c :: cs := by cases o <;> simp [Operator.spelling]
  have hhead := head_spelling ho
  rw [ho] at he h
  rcases extends_cons_iff.1 he with ⟨h', _⟩ | ⟨h', _⟩ | ⟨_, longer, _, hl⟩
  · simp [hhead.1] at h'
  · simp [isLeadingDigit, hhead.2.1] at h'
  · exact h longer hl

theorem Front.sound_ofShortOperator {c : Char} {cs : List Char}
    (hc : isBlank c = false ∧ c ≠ '#' ∧ c ≠ '"' ∧ c.isDigit = false ∧ Word.isStart c = false)
    (hcs : ∀ d ∈ cs.head?, Operator.ofSpelling? [c, d] = none) : (ofShortOperator c cs).Sound := by
  unfold ofShortOperator
  split
  · next o ho =>
    have hs := Operator.ofSpelling?_eq_some_iff.1 ho
    rw [← hs]
    refine ⟨.operator o, fun d hd => not_extends_spelling fun longer hl => ?_⟩
    rw [hs] at hl
    have := hcs d hd
    rw [Operator.ofSpelling?_eq_some_iff.2 (show longer.spelling = [c, d] from hl)] at this
    cases this
  · next ho =>
    refine .unexpectedCharacter ⟨hc.1, hc.2.1, hc.2.2.1, hc.2.2.2.1, hc.2.2.2.2, fun o hs => ?_⟩
    rw [Operator.ofSpelling?_eq_some_iff.2 hs] at ho
    cases ho

theorem Front.sound_ofOperator {c : Char}
    (hc : isBlank c = false ∧ c ≠ '#' ∧ c ≠ '"' ∧ c.isDigit = false ∧ Word.isStart c = false)
    (cs : List Char) : (ofOperator c cs).Sound := by
  unfold ofOperator
  split
  · exact sound_ofShortOperator hc (by simp)
  · next d cs =>
    split
    · next o ho =>
      have hs := Operator.ofSpelling?_eq_some_iff.1 ho
      rw [← hs]
      refine ⟨.operator o, fun e _ => not_extends_spelling fun longer hl => ?_⟩
      have := congrArg List.length hl
      rw [hs] at this
      cases longer <;> simp [Operator.spelling] at this
    · next ho => exact sound_ofShortOperator hc (by simpa using ho)

/-- What is read behind a gap keeps to the grammar. -/
theorem Front.sound_ofText {cs : List Char} (hb : ∀ c ∈ cs.head?, isBlank c = false)
    (hh : ∀ rest, cs = '#' :: rest → rest.head? ≠ some '#') : (ofText cs).Sound := by
  unfold ofText
  split
  · trivial
  · next c cs =>
    split
    · next h => exact .loneHash (hh cs (by rw [h]))
    · split
      · exact sound_ofString cs
      · split
        · next h =>
          refine ⟨.zero, fun d _ he => ?_⟩
          rcases extends_cons_iff.1 he with ⟨h', _⟩ | ⟨h', _⟩ | ⟨o, _, ho, _⟩
          · revert h'; decide
          · revert h'; decide
          · have := (head_spelling ho).2.1
            revert this; decide
        · split
          · next h0 hd => exact sound_ofNumber (by simp [isLeadingDigit, h0, hd]) cs
          · split
            · next hw => exact sound_ofWord hw cs
            · next h1 h2 _ h3 h4 =>
              exact sound_ofOperator
                ⟨hb c rfl, h1, h2, by simpa using h3, by simpa using h4⟩ cs

theorem Front.sound_splitGap (cs : List Char) : (ofText (splitGap .blanks cs).2).Sound :=
  sound_ofText (head_splitGap .blanks cs).1 (head_splitGap .blanks cs).2

/-- Every text is a gap and what is read behind it. -/
theorem exists_splitGap (cs : List Char) :
    ∃ gap rest, cs = gap ++ rest ∧ splitGap .blanks cs = (gap, rest) ∧ FinalGap gap ∧
      (rest ≠ [] → Gap gap) ∧ (Front.ofText rest).Sound :=
  ⟨_, _, (splitGap_append .blanks cs).symm, rfl, (finalGap_splitGap cs).1,
    (finalGap_splitGap cs).2, Front.sound_splitGap cs⟩

end ImageScript
