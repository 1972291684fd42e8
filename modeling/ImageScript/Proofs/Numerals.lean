-- Numbers and the texts they are written with.  The digits of a number are read
-- as one literal that stands for it, or as too large a number, and no literal is
-- written in another way.  So a zero in front of other digits is a literal apart.
import ImageScript.Proofs.Calls
import ImageScript.Proofs.Moves

namespace ImageScript

/-! ## The digits of a number -/

/-- The digits of a number other than zero start with none. -/
theorem exists_toDigits_eq_cons {v : Nat} (h : 0 < v) :
    ∃ d ds, Nat.toDigits 10 v = d :: ds ∧ isLeadingDigit d = true ∧
      ds.all Char.isDigit = true := by
  induction v using Nat.strong_induction_on with
  | _ v ih =>
    by_cases hv : v < 10
    · refine ⟨Nat.digitChar v, [], Nat.toDigits_of_lt_base hv, ?_, rfl⟩
      simp [isLeadingDigit, Nat.isDigit_digitChar]
      omega
    · obtain ⟨d, ds, hdigits, hd, hds⟩ := ih (v / 10) (by omega) (by omega)
      refine ⟨d, ds ++ [Nat.digitChar (v % 10)], ?_, hd, ?_⟩
      · rw [Nat.toDigits_of_base_le (by decide) (by omega), hdigits, List.cons_append]
      · simp only [List.all_append, List.all_cons, List.all_nil, Bool.and_true, hds,
          Bool.true_and, Nat.isDigit_digitChar, decide_eq_true_eq]
        omega

theorem lexeme_toDigits {v : Nat} (h : v ≤ Decimal.maxInt) :
    Lexeme (.literal .number) (Nat.toDigits 10 v) := by
  by_cases h0 : v = 0
  · subst h0
    exact .zero
  · obtain ⟨d, ds, hdigits, hd, hds⟩ := exists_toDigits_eq_cons (Nat.pos_of_ne_zero h0)
    have hvalue := Decimal.value_toDigits v
    rw [hdigits] at hvalue ⊢
    apply Lexeme.number hd hds
    rw [hvalue]
    exact h

/-- A number literal is written with the digits of a number in range, and in no
other way. -/
theorem Lexeme.exists_eq_toDigits {text : List Char} (h : Lexeme (.literal .number) text) :
    ∃ v, v ≤ Decimal.maxInt ∧ text = Nat.toDigits 10 v := by
  generalize hk : Kind.literal .number = kind at h
  cases h with
  | operator o => cases hk
  | @word c cs _ _ =>
    rcases Word.kindOf_cases (String.ofList (c :: cs)) with ⟨k, hw⟩ | hw | hw | hw <;>
    · rw [hw] at hk
      cases hk
  | zero => exact ⟨0, Nat.zero_le _, rfl⟩
  | @number d ds hd hds hv =>
    have h0 : d ≠ '0' := by
      simp only [isLeadingDigit, Bool.and_eq_true, decide_eq_true_eq] at hd
      exact hd.2
    have hdigits := Decimal.toDigits_value (all_isDigit_of_isLeadingDigit hd hds) h0
    exact ⟨_, hv, hdigits.symm⟩
  | string _ => cases hk

/-- The digits of a number that is too large are at fault, all of them. -/
theorem faulty_toDigits {v : Nat} (h : Decimal.maxInt < v) :
    Faulty [] (Nat.toDigits 10 v) [] (.numberTooLarge (toString v)) := by
  obtain ⟨d, ds, hdigits, hd, hds⟩ := exists_toDigits_eq_cons (Nat.lt_of_le_of_lt (Nat.zero_le _) h)
  have hvalue := Decimal.value_toDigits v
  rw [Nat.toString_eq_ofList_toDigits]
  rw [hdigits] at hvalue ⊢
  apply Faulty.numberTooLarge hd hds
  · simp
  · rw [hvalue]
    exact h

/-! ## Number tokens -/

/-- The token of a number at a position. -/
def Token.ofNumber (p : Position) (v : Nat) : Token where
  kind := .literal .number
  start := p
  text := toString v

/-- A number in range is the value of its token. -/
theorem Token.number?_eq_of_text {t : Token} {v : Nat} (hk : t.kind = .literal .number)
    (ht : t.text.toList = Nat.toDigits 10 v) (h : v ≤ Decimal.maxInt) :
    t.number? = some (v : Int) := by
  have hdigits := Decimal.integer?_of_digits Nat.toDigits_ne_nil (Decimal.all_isDigit_toDigits v)
  rw [Decimal.value_toDigits, if_pos h] at hdigits
  simp [number?, hk, ht, hdigits]

/-- The digits of a number are read as it, or they are too many. -/
theorem lex_toString (v : Nat) :
    lex (toString v) =
      if v ≤ Decimal.maxInt then
        .ok [.ofNumber .start v, Layout.endAt (Position.start.after (toString v).toList)]
      else
        .error { fault := .numberTooLarge (toString v), start := .start,
                 length := (toString v).utf8ByteSize } := by
  have htext : toString v = String.ofList (Nat.toDigits 10 v) := Nat.toString_eq_ofList_toDigits
  by_cases h : v ≤ Decimal.maxInt
  · have hlex := lex_of_lexeme (lexeme_toDigits h)
    rw [if_pos h, Token.ofNumber, htext, hlex, String.toList_ofList]
  · have hlex := lex_of_faulty (faulty_toDigits (Nat.lt_of_not_le h))
    rw [List.nil_append, List.append_nil, ← htext] at hlex
    rw [if_neg h, hlex, Utf8.utf8ByteSize_eq_length, htext, String.toList_ofList]
    rfl

/-- A number that is read stands for the number that its text is written for. -/
theorem Lexer.exists_number_of_read {s : Lexer} {t : Token} (h : s.read.1 = .ok t)
    (hk : t.kind = .literal .number) :
    ∃ v : Nat, v ≤ Decimal.maxInt ∧ t.number? = some (v : Int) ∧ t.text = toString v := by
  rcases end_or_lexeme_of_read h with hend | hl
  · rw [hend] at hk
    cases hk
  · rw [hk] at hl
    obtain ⟨v, hv, htext⟩ := hl.exists_eq_toDigits
    refine ⟨v, hv, Token.number?_eq_of_text hk htext hv, ?_⟩
    rw [Nat.toString_eq_ofList_toDigits, ← htext, String.ofList_toList]

/-! ## Zeros in front -/

/-- Nothing makes a zero longer. -/
theorem not_extends_zero (c : Char) : ¬ Extends ['0'] c := by
  intro h
  rcases extends_cons_iff.1 h with ⟨hs, -⟩ | ⟨hd, -⟩ | ⟨o, -, ho, -⟩
  · revert hs
    decide
  · revert hd
    decide
  · have := (head_spelling ho).2.1
    revert this
    decide

/-- Where a script stands behind `k` characters of one byte. -/
def Position.onFirstLine (k : Nat) : Position where
  line := 1
  column := k + 1
  offset := k

theorem Position.start_after_zeros (k : Nat) :
    start.after (List.replicate k '0') = onFirstLine k := by
  induction k with
  | zero => rfl
  | succ k ih =>
    rw [List.replicate_succ', after_append, ih]
    rfl

/-- A zero is read off the front, whatever follows it. -/
theorem Lexer.read_zero {s : Lexer} {rest : List Char} (ha : s.ahead = .text ('0' :: rest)) :
    s.read = (.ok (.ofNumber s.position 0), s.moveTo (s.position.after ['0']) rest) :=
  read_of_lexeme .nil .zero (fun c _ => not_extends_zero c) ha

/-- As many zeros as there are come apart, and the stream goes on behind them. -/
theorem Lexer.rest_zeros {s : Lexer} (hf : s.finished = false) {k : Nat} {rest : List Char}
    (ha : s.ahead = .text (List.replicate k '0' ++ rest)) :
    s.rest.1 =
      ((List.range k).map fun i => .ok (.ofNumber (s.position.after (List.replicate i '0')) 0)) ++
        (s.moveTo (s.position.after (List.replicate k '0')) rest).rest.1 := by
  induction k generalizing s with
  | zero =>
    have hs : s.moveTo s.position rest = s := by
      rw [List.replicate_zero, List.nil_append] at ha
      rw [moveTo, ← ha]
    simp [hs]
  | succ k ih =>
    rw [List.replicate_succ, List.cons_append] at ha
    have hread := read_zero ha
    have hlast : s.read.1.isLast = false := by
      rw [hread]
      rfl
    have hnext := ih (s := s.moveTo (s.position.after ['0']) (List.replicate k '0' ++ rest)) hf rfl
    rw [rest_of_not_isLast hf hlast, hread, List.range_succ_eq_map, List.map_cons,
      List.map_map]
    exact congrArg (_ :: ·) hnext

/-- The tokens of `k` zeros at the start of a script. -/
def zeros (k : Nat) : List Token :=
  (List.range k).map fun i => .ofNumber (.onFirstLine i) 0

theorem rest_ofString_zeros (k : Nat) (rest : List Char) :
    (Lexer.ofString (String.ofList (List.replicate k '0' ++ rest))).rest.1 =
      (zeros k).map .ok ++
        (Lexer.ofString (String.ofList rest)).rest.1.map (·.behind (.onFirstLine k)) := by
  have hstart : (Lexer.ofString (String.ofList (List.replicate k '0' ++ rest))).ahead =
      .text (List.replicate k '0' ++ rest) := by
    rw [Lexer.ofString, String.toList_ofList]
  have hbehind : (Lexer.ofString (String.ofList (List.replicate k '0' ++ rest))).moveTo
      (.onFirstLine k) rest = (Lexer.ofString (String.ofList rest)).behind (.onFirstLine k) := by
    simp [Lexer.ofString, Lexer.moveTo, Lexer.behind]
  have hposition : (Lexer.ofString (String.ofList (List.replicate k '0' ++ rest))).position =
      .start := rfl
  rw [Lexer.rest_zeros rfl hstart]
  simp only [hposition, Position.start_after_zeros]
  rw [hbehind, Lexer.rest_behind (Lexer.standsIn_ofString _), zeros, List.map_map]
  rfl

/-! ## The law -/

/-- The digits of a number are lexed into one literal of that value, or are too
large from the first to the last.  A number that is read, in any script and behind
any failure, is in range and written with its digits.  Zeros in front of a text
are literals of their own, and the text is lexed behind them as on its own. -/
theorem numbers_are_read_as_they_are_written :
    (∀ v : Nat,
      lex (toString v) =
        (if v ≤ Decimal.maxInt then
          .ok [.ofNumber .start v, Layout.endAt (Position.start.after (toString v).toList)]
        else
          .error { fault := .numberTooLarge (toString v), start := .start,
                   length := (toString v).utf8ByteSize }) ∧
      (v ≤ Decimal.maxInt → ∀ p, (Token.ofNumber p v).number? = some (v : Int))) ∧
    (∀ source pulls answers stop, Answers source pulls answers stop →
      ∀ t, some (.ok t) ∈ answers → t.kind = .literal .number →
        ∃ v : Nat, v ≤ Decimal.maxInt ∧ t.number? = some (v : Int) ∧ t.text = toString v) ∧
    ∀ (k : Nat) (rest : List Char),
      (Lexer.ofString (String.ofList (List.replicate k '0' ++ rest))).rest.1 =
        (zeros k).map .ok ++
          (Lexer.ofString (String.ofList rest)).rest.1.map (·.behind (.onFirstLine k)) ∧
      lex (String.ofList (List.replicate k '0' ++ rest)) =
        match lex (String.ofList rest) with
        | .ok tokens => .ok (zeros k ++ tokens.map (·.behind (.onFirstLine k)))
        | .error e => .error (e.behind (.onFirstLine k)) := by
  refine ⟨?_, ?_, ?_⟩
  · intro v
    refine ⟨lex_toString v, ?_⟩
    intro hv p
    apply Token.number?_eq_of_text rfl _ hv
    rw [Token.ofNumber, Nat.toString_eq_repr, Nat.toList_repr]
  · intro source pulls answers stop hanswers t ht hk
    rw [(answers_iff.1 hanswers).1] at ht
    obtain ⟨s, -, hs⟩ := Lexer.exists_read_of_mem_pullAll (Lexer.standsIn_ofString source) ht
    exact Lexer.exists_number_of_read hs.symm hk
  · intro k rest
    have hrest := rest_ofString_zeros k rest
    refine ⟨hrest, ?_⟩
    unfold lex
    rw [hrest, collect_map_ok_append, collect_map_behind]
    cases collect (Lexer.ofString (String.ofList rest)).rest.1 <;> rfl

/-- Seven behind two zeros, as the three literals that it is lexed into. -/
example : lex "007" = .ok
    (zeros 2 ++ [.ofNumber (.onFirstLine 2) 7, Layout.endAt (.onFirstLine 3)]) := by
  decide +kernel

end ImageScript
