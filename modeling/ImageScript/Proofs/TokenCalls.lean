-- A lexer that is asked for one token after the other, past all failures.  Its
-- answers make a row without end, and the stream of the lexer is the front of
-- that row, up to the first failure or the end of the input.
import ImageScript.Proofs.Answers

namespace ImageScript

namespace Lexer

/-! ## The row of answers -/

/-- The lexer after some calls for a token. -/
def afterTokens (s : Lexer) : Nat → Lexer
  | 0 => s
  | k + 1 => (s.afterTokens k).read.2

/-- What a lexer answers to a call for a token, after `k` other ones. -/
def answer (s : Lexer) (k : Nat) : Outcome :=
  (s.afterTokens k).read.1

theorem afterTokens_succ (s : Lexer) (k : Nat) :
    s.afterTokens (k + 1) = (s.afterTokens k).read.2 := rfl

@[simp] theorem answer_zero (s : Lexer) : s.answer 0 = s.read.1 := rfl

/-- The first call of the row apart. -/
theorem afterTokens_read (s : Lexer) (k : Nat) :
    s.read.2.afterTokens k = s.afterTokens (k + 1) := by
  induction k with
  | zero => rfl
  | succ k ih => rw [afterTokens_succ, ih, ← afterTokens_succ]

theorem answer_read (s : Lexer) (k : Nat) : s.read.2.answer k = s.answer (k + 1) := by
  unfold answer
  rw [afterTokens_read]

/-- The first answers of the row. -/
def firstAnswers (s : Lexer) (k : Nat) : List Outcome :=
  (List.range k).map s.answer

@[simp] theorem length_firstAnswers (s : Lexer) (k : Nat) : (s.firstAnswers k).length = k := by
  simp [firstAnswers]

theorem firstAnswers_succ (s : Lexer) (k : Nat) :
    s.firstAnswers (k + 1) = s.firstAnswers k ++ [s.answer k] := by
  simp [firstAnswers, List.range_succ]

theorem firstAnswers_read (s : Lexer) (k : Nat) :
    s.firstAnswers (k + 1) = s.read.1 :: s.read.2.firstAnswers k := by
  simp [firstAnswers, List.range_succ_eq_map, answer_read]

theorem forall_mem_firstAnswers {s : Lexer} {k : Nat} {P : Outcome → Prop} :
    (∀ outcome ∈ s.firstAnswers k, P outcome) ↔ ∀ j < k, P (s.answer j) := by
  simp [firstAnswers]

/-- Calls for tokens give the row from its start on. -/
theorem pullAll_tokens (s : Lexer) (k : Nat) :
    s.pullAll (List.replicate k .token) = ((s.firstAnswers k).map some, s.afterTokens k) := by
  induction k generalizing s with
  | zero => rfl
  | succ k ih =>
    have hstep : s.pull .token = (some s.read.1, s.read.2) := rfl
    rw [List.replicate_succ, pullAll, hstep]
    dsimp only
    rw [ih, firstAnswers_read, afterTokens_read]
    rfl

theorem standsIn_afterTokens {source : String} {s : Lexer} (h : s.StandsIn source) (k : Nat) :
    (s.afterTokens k).StandsIn source := by
  induction k with
  | zero => exact h
  | succ k ih => exact standsIn_read ih

@[simp] theorem finished_afterTokens (s : Lexer) (k : Nat) :
    (s.afterTokens k).finished = s.finished := by
  induction k with
  | zero => rfl
  | succ k ih => rw [afterTokens_succ, finished_read, ih]

/-! ## The stream in the row -/

/-- The stream is the row up to the first failure or end. -/
theorem exists_rest_eq_firstAnswers {s : Lexer} (hf : s.finished = false) :
    ∃ k, s.rest.1 = s.firstAnswers (k + 1) ∧ (∀ j < k, (s.answer j).isLast = false) ∧
      (s.answer k).isLast = true := by
  induction hm : s.remaining using Nat.strongRecOn generalizing s with
  | ind m ih =>
    cases hl : s.read.1.isLast with
    | true =>
      refine ⟨0, rest_of_isLast hf hl, ?_, hl⟩
      intro j hj
      exact absurd hj (Nat.not_lt_zero j)
    | false =>
      have hlt := remaining_read_lt hl
      have hf' : s.read.2.finished = false := by rw [finished_read, hf]
      obtain ⟨k, hrest, hbefore, hlast⟩ := ih s.read.2.remaining (by omega) hf' rfl
      refine ⟨k + 1, ?_, ?_, ?_⟩
      · rw [rest_of_not_isLast hf hl, hrest, firstAnswers_read s]
      · intro j hj
        cases j with
        | zero => exact hl
        | succ j =>
          rw [← answer_read]
          exact hbefore j (by omega)
      · rw [← answer_read]
        exact hlast

end Lexer

/-! ## Whole scripts -/

/-- Asked for tokens alone, a script gives the row of its answers. -/
theorem answers_tokens (source : String) (k : Nat) :
    Answers source (List.replicate k .token) (((Lexer.ofString source).firstAnswers k).map some)
      ((Lexer.ofString source).afterTokens k).position := by
  have hanswers := answers_pullAll source (List.replicate k .token)
  rw [Lexer.pullAll_tokens] at hanswers
  exact hanswers

/-- Answers that end no stream are tokens. -/
theorem exists_tokens_of_not_isLast {outcomes : List Outcome}
    (h : ∀ outcome ∈ outcomes, outcome.isLast = false) :
    ∃ tokens : List Token, outcomes = tokens.map .ok ∧ ∀ t ∈ tokens, t.kind ≠ .endOfInput := by
  induction outcomes with
  | nil =>
    refine ⟨[], rfl, ?_⟩
    intro t ht
    cases ht
  | cons outcome outcomes ih =>
    obtain ⟨hhead, htail⟩ := List.forall_mem_cons.1 h
    obtain ⟨tokens, rfl, hkinds⟩ := ih htail
    cases outcome with
    | error e => cases hhead
    | ok t =>
      refine ⟨t :: tokens, rfl, ?_⟩
      rw [List.forall_mem_cons]
      exact ⟨of_decide_eq_false hhead, hkinds⟩

/-- A whole script comes to its answers up to the first failure or end. -/
theorem exists_lex_eq_answers (source : String) :
    ∃ tokens : List Token, (∀ t ∈ tokens, t.kind ≠ .endOfInput) ∧
      (Lexer.ofString source).firstAnswers tokens.length = tokens.map .ok ∧
      ((∃ t, t.kind = .endOfInput ∧ (Lexer.ofString source).answer tokens.length = .ok t ∧
          lex source = .ok (tokens ++ [t])) ∨
        ∃ e, (Lexer.ofString source).answer tokens.length = .error e ∧
          lex source = .error e) := by
  obtain ⟨k, hrest, hbefore, hlast⟩ :=
    Lexer.exists_rest_eq_firstAnswers (s := .ofString source) rfl
  obtain ⟨tokens, htokens, hkinds⟩ :=
    exists_tokens_of_not_isLast (Lexer.forall_mem_firstAnswers.2 hbefore)
  have hlength : tokens.length = k := by
    have := congrArg List.length htokens
    rw [Lexer.length_firstAnswers, List.length_map] at this
    exact this.symm
  subst hlength
  refine ⟨tokens, hkinds, htokens, ?_⟩
  unfold lex
  rw [hrest, Lexer.firstAnswers_succ, htokens]
  cases houtcome : (Lexer.ofString source).answer tokens.length with
  | ok t =>
    rw [houtcome] at hlast
    exact Or.inl ⟨t, of_decide_eq_true hlast, rfl, collect_ok tokens t⟩
  | error e => exact Or.inr ⟨e, rfl, collect_error tokens e⟩

end ImageScript
