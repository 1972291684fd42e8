-- Two kinds of calls on one lexer, in any order.  All of them take their answers
-- off the one row that calls for tokens give.  A stream that is over has no more
-- items, but it keeps nothing back: the calls for tokens go on where they were.
import ImageScript.Proofs.TokenCalls
import Mathlib.Data.List.Induction

namespace ImageScript

/-! ## Answers to mixed calls -/

/-- The answers other than none, in order. -/
def outcomesIn (answers : List (Option Outcome)) : List Outcome :=
  answers.filterMap id

@[simp] theorem outcomesIn_concat_some (answers : List (Option Outcome)) (outcome : Outcome) :
    outcomesIn (answers ++ [some outcome]) = outcomesIn answers ++ [outcome] := by
  simp [outcomesIn]

@[simp] theorem outcomesIn_concat_none (answers : List (Option Outcome)) :
    outcomesIn (answers ++ [none]) = outcomesIn answers := by
  simp [outcomesIn]

/-- One of the calls for an item was answered with a failure or with the end. -/
def StreamOver (pulls : List Lexer.Pull) (answers : List (Option Outcome)) : Prop :=
  ∃ outcome, (Lexer.Pull.item, some outcome) ∈ pulls.zip answers ∧ outcome.isLast = true

theorem not_streamOver_nil : ¬ StreamOver [] [] := by
  rintro ⟨outcome, hmem, -⟩
  cases hmem

theorem streamOver_concat_iff {pulls : List Lexer.Pull} {answers : List (Option Outcome)}
    (h : pulls.length = answers.length) (pull : Lexer.Pull) (answer : Option Outcome) :
    StreamOver (pulls ++ [pull]) (answers ++ [answer]) ↔
      StreamOver pulls answers ∨
        pull = .item ∧ ∃ outcome, answer = some outcome ∧ outcome.isLast = true := by
  unfold StreamOver
  rw [List.zip_append h]
  simp only [List.zip_cons_cons, List.zip_nil_right, List.mem_append, List.mem_singleton,
    Prod.mk.injEq]
  constructor
  · rintro ⟨outcome, hmem | ⟨rfl, rfl⟩, hlast⟩
    · exact Or.inl ⟨outcome, hmem, hlast⟩
    · exact Or.inr ⟨rfl, outcome, rfl, hlast⟩
  · rintro (⟨outcome, hmem, hlast⟩ | ⟨rfl, outcome, rfl, hlast⟩)
    · exact ⟨outcome, Or.inl hmem, hlast⟩
    · exact ⟨outcome, Or.inr ⟨rfl, rfl⟩, hlast⟩

namespace Lexer

/-- Reading neither sees nor changes that a stream is over. -/
theorem read_with_finished (s : Lexer) (b : Bool) :
    ({ s with finished := b } : Lexer).read = (s.read.1, { s.read.2 with finished := b }) := by
  obtain ⟨position, ahead, finished⟩ := s
  cases ahead with
  | brokenCharacter => rfl
  | text cs =>
    rw [read_of_text rfl, read_of_text rfl]
    cases Front.ofText (splitGap .blanks cs).2 with
    | loneHash rest =>
      cases rest with
      | nil => rfl
      | cons c rest =>
        simp only [takeFront, moveByte]
        split <;> rfl
    | _ => rfl

/-! ## Where a run stands in the row -/

/-- After the calls `pulls` to `s`, answered with `answers`, the lexer is `last`.
As many answers of the row are used up as there are answers other than none. -/
structure InRow (s : Lexer) (pulls : List Pull) (answers : List (Option Outcome))
    (last : Lexer) : Prop where
  length_eq : pulls.length = answers.length
  row : outcomesIn answers = s.firstAnswers (outcomesIn answers).length
  place : last = { s.afterTokens (outcomesIn answers).length with finished := last.finished }
  finished_iff : last.finished = true ↔ StreamOver pulls answers

theorem inRow_nil {s : Lexer} (hf : s.finished = false) : s.InRow [] [] s := by
  refine ⟨rfl, rfl, rfl, ?_⟩
  rw [hf]
  exact iff_of_false Bool.false_ne_true not_streamOver_nil

/-- What is read next is the next answer of the row. -/
theorem InRow.read_eq {s last : Lexer} {pulls : List Pull} {answers : List (Option Outcome)}
    (h : s.InRow pulls answers last) :
    last.read = (s.answer (outcomesIn answers).length,
      { s.afterTokens ((outcomesIn answers).length + 1) with finished := last.finished }) := by
  have hread := read_with_finished (s.afterTokens (outcomesIn answers).length) last.finished
  rw [← h.place] at hread
  exact hread

/-- A call that is answered from the row takes one answer off it. -/
theorem InRow.take {s last : Lexer} {pulls : List Pull} {answers : List (Option Outcome)}
    (h : s.InRow pulls answers last) {pull : Pull} {finished : Bool}
    (hover : finished = true ↔ StreamOver pulls answers ∨
      pull = .item ∧ (s.answer (outcomesIn answers).length).isLast = true) :
    s.InRow (pulls ++ [pull]) (answers ++ [some (s.answer (outcomesIn answers).length)])
      { s.afterTokens ((outcomesIn answers).length + 1) with finished } := by
  refine ⟨?_, ?_, ?_, ?_⟩
  · simp [h.length_eq]
  · rw [outcomesIn_concat_some, List.length_append, List.length_singleton, firstAnswers_succ,
      ← h.row]
  · simp
  · rw [streamOver_concat_iff h.length_eq, hover]
    simp

theorem InRow.token {s last : Lexer} {pulls : List Pull} {answers : List (Option Outcome)}
    (h : s.InRow pulls answers last) :
    (last.pull .token).1 = some (s.answer (outcomesIn answers).length) ∧
      s.InRow (pulls ++ [.token]) (answers ++ [(last.pull .token).1]) (last.pull .token).2 := by
  have hstep : last.pull .token = (some last.read.1, last.read.2) := rfl
  rw [hstep, h.read_eq]
  refine ⟨rfl, h.take ?_⟩
  rw [h.finished_iff]
  simp

/-- A stream that is not over takes the next answer of the row. -/
theorem InRow.item_of_not_over {s last : Lexer} {pulls : List Pull}
    {answers : List (Option Outcome)} (h : s.InRow pulls answers last)
    (hover : ¬ StreamOver pulls answers) :
    (last.pull .item).1 = some (s.answer (outcomesIn answers).length) ∧
      s.InRow (pulls ++ [.item]) (answers ++ [(last.pull .item).1]) (last.pull .item).2 := by
  have hf : ¬ last.finished = true := fun hf => hover (h.finished_iff.1 hf)
  have hstep : last.pull .item =
      (some last.read.1, { last.read.2 with finished := last.read.1.isLast }) := if_neg hf
  rw [hstep, h.read_eq]
  refine ⟨rfl, h.take ?_⟩
  simp [hover]

/-- A stream that is over takes nothing and moves nothing. -/
theorem InRow.item_of_over {s last : Lexer} {pulls : List Pull}
    {answers : List (Option Outcome)} (h : s.InRow pulls answers last)
    (hover : StreamOver pulls answers) :
    last.pull .item = (none, last) ∧
      s.InRow (pulls ++ [.item]) (answers ++ [(last.pull .item).1]) (last.pull .item).2 := by
  have hstep : last.pull .item = (none, last) := if_pos (h.finished_iff.2 hover)
  rw [hstep]
  refine ⟨rfl, ?_, ?_, ?_, ?_⟩
  · simp [h.length_eq]
  · rw [outcomesIn_concat_none]
    exact h.row
  · rw [outcomesIn_concat_none]
    exact h.place
  · rw [streamOver_concat_iff h.length_eq, h.finished_iff]
    simp

/-- Any call leaves the lexer in its row. -/
theorem InRow.pull {s last : Lexer} {pulls : List Pull} {answers : List (Option Outcome)}
    (h : s.InRow pulls answers last) (pull : Pull) :
    s.InRow (pulls ++ [pull]) (answers ++ [(last.pull pull).1]) (last.pull pull).2 := by
  cases pull with
  | token => exact h.token.2
  | item =>
    by_cases hover : StreamOver pulls answers
    · exact (h.item_of_over hover).2
    · exact (h.item_of_not_over hover).2

theorem pullAll_concat (s : Lexer) (pulls : List Pull) (pull : Pull) :
    s.pullAll (pulls ++ [pull]) =
      ((s.pullAll pulls).1 ++ [((s.pullAll pulls).2.pull pull).1],
        ((s.pullAll pulls).2.pull pull).2) := by
  rw [pullAll_append]
  rfl

theorem inRow_pullAll {s : Lexer} (hf : s.finished = false) (pulls : List Pull) :
    s.InRow pulls (s.pullAll pulls).1 (s.pullAll pulls).2 := by
  induction pulls using List.reverseRecOn with
  | nil => exact inRow_nil hf
  | append_singleton pulls pull ih =>
    rw [pullAll_concat]
    exact ih.pull pull

end Lexer

/-! ## The law -/

/-- Calls for tokens give a row of answers.  In any order of calls, the answers
other than none are that row from its start on: a call for a token takes the next
one, and so does a call for an item, unless an earlier call for an item was
answered with a failure or the end.  Then the answer is none and the script is
read no further.  The tokens or the failure of a whole script are the front of
the row, up to the first failure or end. -/
theorem all_calls_take_from_one_row_of_answers (source : String) :
    (∀ k, Answers source (List.replicate k .token)
      (((Lexer.ofString source).firstAnswers k).map some)
      ((Lexer.ofString source).afterTokens k).position) ∧
    (∀ pulls, ∃ answers stop, Answers source pulls answers stop ∧
      outcomesIn answers = (Lexer.ofString source).firstAnswers (outcomesIn answers).length ∧
      (∃ stop', Answers source (pulls ++ [.token])
        (answers ++ [some ((Lexer.ofString source).answer (outcomesIn answers).length)]) stop') ∧
      (StreamOver pulls answers →
        Answers source (pulls ++ [.item]) (answers ++ [none]) stop) ∧
      (¬ StreamOver pulls answers → ∃ stop', Answers source (pulls ++ [.item])
        (answers ++ [some ((Lexer.ofString source).answer (outcomesIn answers).length)]) stop')) ∧
    ∃ tokens : List Token, (∀ t ∈ tokens, t.kind ≠ .endOfInput) ∧
      (Lexer.ofString source).firstAnswers tokens.length = tokens.map .ok ∧
      ((∃ t, t.kind = .endOfInput ∧ (Lexer.ofString source).answer tokens.length = .ok t ∧
          lex source = .ok (tokens ++ [t])) ∨
        ∃ e, (Lexer.ofString source).answer tokens.length = .error e ∧
          lex source = .error e) := by
  refine ⟨answers_tokens source, ?_, exists_lex_eq_answers source⟩
  intro pulls
  have hrow : (Lexer.ofString source).InRow pulls
      ((Lexer.ofString source).pullAll pulls).1 ((Lexer.ofString source).pullAll pulls).2 :=
    Lexer.inRow_pullAll rfl pulls
  have hnext : ∀ pull, Answers source (pulls ++ [pull])
      (((Lexer.ofString source).pullAll pulls).1 ++ [(((Lexer.ofString source).pullAll pulls).2.pull pull).1])
      (((Lexer.ofString source).pullAll pulls).2.pull pull).2.position := by
    intro pull
    have hanswers := answers_pullAll source (pulls ++ [pull])
    rw [Lexer.pullAll_concat] at hanswers
    exact hanswers
  refine ⟨_, _, answers_pullAll source pulls, hrow.row, ?_, ?_, ?_⟩
  · have htoken := hnext .token
    rw [hrow.token.1] at htoken
    exact ⟨_, htoken⟩
  · intro hover
    have hitem := hnext .item
    rw [(hrow.item_of_over hover).1] at hitem
    exact hitem
  · intro hover
    have hitem := hnext .item
    rw [(hrow.item_of_not_over hover).1] at hitem
    exact ⟨_, hitem⟩

end ImageScript
