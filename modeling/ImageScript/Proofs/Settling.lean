-- How a run goes on and on.  Every call takes the lexer forward, but for two
-- answers that it gives for ever once it has given them: the end of the input,
-- and a character that starts no token.  So a script is over after as many calls
-- as it has bytes, whatever fails on the way.
import ImageScript.Proofs.Calls
import ImageScript.Proofs.Cuts
import ImageScript.Proofs.Locations
import ImageScript.Proofs.TokenCalls

namespace ImageScript

/-! ## Answers that stay -/

/-- The answer is the end of the input or an unexpected character. -/
def Outcome.isSettled : Outcome → Bool
  | .ok t => t.kind = .endOfInput
  | .error e =>
    match e.fault with
    | .unexpectedCharacter _ => true
    | _ => false

/-- Before a stream is over nothing is settled. -/
theorem Outcome.isSettled_of_not_isLast {outcome : Outcome} (h : outcome.isLast = false) :
    outcome.isSettled = false := by
  cases outcome with
  | ok t => exact h
  | error e => cases h

namespace Lexer

/-- An answer that is settled leaves the lexer where it gives the answer again. -/
theorem read_of_isSettled {s : Lexer} (h : s.read.1.isSettled = true) :
    s.read.2.read = s.read := by
  cases ha : s.ahead with
  | brokenCharacter =>
    have hr := read_of_brokenCharacter ha
    rw [hr]
    exact hr
  | text cs =>
    obtain ⟨gap, rest, rfl, hsplit, -, -, hsound⟩ := exists_splitGap cs
    have hr := read_of_text ha
    have hinput := Front.input_ofText rest
    rw [hsplit] at hr
    rw [hr] at h ⊢
    cases hf : Front.ofText rest with
    | nothing => rfl
    | unexpected c after =>
      -- no gap stands before the character any more, so it is found at once
      rw [hf] at hsound hinput
      obtain rfl : c :: after = rest := hinput
      obtain ⟨hblank, hhash⟩ := Faulty.head hsound
      have hsplit' : splitGap .blanks (c :: after) = ([], c :: after) :=
        splitGap_of_head hblank hhash
      have hagain : (s.moveTo (s.position.after gap) (c :: after)).read =
          s.takeFront (s.position.after gap) (.unexpected c after) := by
        rw [read_of_text rfl, hsplit', takeFront_moveTo]
        dsimp only [moveTo, Position.after_nil]
        rw [hf]
      exact hagain
    | lexeme kind text rest' =>
      rw [hf] at h hsound
      exact absurd (of_decide_eq_true h) hsound.1.kind_ne_endOfInput
    | _ =>
      rw [hf] at h
      cases h

/-- So it is given for ever. -/
theorem answer_of_isSettled {s : Lexer} {k : Nat} (h : (s.answer k).isSettled = true) {j : Nat}
    (hj : k ≤ j) : s.answer j = s.answer k := by
  have hread : (s.afterTokens j).read = (s.afterTokens k).read := by
    induction j, hj using Nat.le_induction with
    | base => rfl
    | succ j _ ih => rw [afterTokens_succ, ih, read_of_isSettled h]
  exact congrArg Prod.fst hread

/-! ## Progress -/

theorem lt_offset_takeFront (s : Lexer) (p : Position) {f : Front} (hf : f.Sound)
    (h : (s.takeFront p f).1.isSettled = false) :
    p.offset < (s.takeFront p f).2.position.offset := by
  have hafter : ∀ {cs : List Char}, cs ≠ [] → p.offset < (p.after cs).offset := by
    intro cs hne
    have := Utf8.length_pos hne
    rw [Position.offset_after]
    omega
  cases f with
  | nothing => cases h
  | lexeme kind text rest => exact hafter hf.1.ne_nil
  | loneHash rest =>
    have hle := le_offset_moveByte s (p.afterChar '#') rest
    have := Char.utf8Size_pos '#'
    rw [Position.offset_afterChar] at hle
    dsimp only [takeFront]
    omega
  | illegalInString body c rest => exact hafter (List.cons_ne_nil '"' body)
  | unterminatedString body => exact hafter (List.cons_ne_nil '"' body)
  | tooLarge digits rest =>
    apply hafter
    rintro rfl
    cases hf
  | unexpected c rest => cases h

/-- A call that is not settled takes the lexer forward. -/
theorem lt_offset_read {s : Lexer} (h : s.read.1.isSettled = false) :
    s.position.offset < s.read.2.position.offset := by
  cases ha : s.ahead with
  | brokenCharacter =>
    rw [read_of_brokenCharacter ha] at h
    cases h
  | text cs =>
    rw [read_of_text ha] at h ⊢
    have hlt := lt_offset_takeFront s _ (Front.sound_splitGap cs) h
    rw [Position.offset_after] at hlt
    omega

theorem StandsIn.offset_le {source : String} {s : Lexer} (h : s.StandsIn source) :
    s.position.offset ≤ source.utf8ByteSize := by
  rcases read_cases h with ⟨front, gap, rest, hs, hp, -⟩ | ⟨-, hp, -⟩
  · rw [List.append_assoc] at hs
    rw [hp]
    exact (Position.trueIn_after hs).offset_le
  · exact hp.offset_le

/-! ## Counting calls -/

/-- The number of answers among the first `k` that are not settled. -/
def unsettled (s : Lexer) (k : Nat) : Nat :=
  (s.firstAnswers k).countP fun outcome => !outcome.isSettled

/-- Each of them has taken the lexer forward by a byte at least. -/
theorem unsettled_le_offset {source : String} {s : Lexer} (h : s.StandsIn source) (k : Nat) :
    s.unsettled k ≤ (s.afterTokens k).position.offset := by
  induction k with
  | zero => exact Nat.zero_le _
  | succ k ih =>
    have hnext : s.unsettled (k + 1) =
        s.unsettled k + if (s.answer k).isSettled = true then 0 else 1 := by
      unfold unsettled
      rw [firstAnswers_succ, List.countP_append]
      cases hsettled : (s.answer k).isSettled <;> simp [hsettled]
    have hle := le_offset_read (standsIn_afterTokens h k)
    rw [hnext, afterTokens_succ]
    by_cases hsettled : (s.answer k).isSettled = true
    · rw [if_pos hsettled]
      omega
    · have hlt := lt_offset_read (Bool.eq_false_iff.2 hsettled)
      rw [if_neg hsettled]
      omega

theorem unsettled_le {source : String} {s : Lexer} (h : s.StandsIn source) (k : Nat) :
    s.unsettled k ≤ source.utf8ByteSize := by
  have hbytes := unsettled_le_offset h k
  have hsize := (standsIn_afterTokens h k).offset_le
  omega

/-- As long as nothing is settled, all answers count. -/
theorem unsettled_eq {s : Lexer} {k : Nat} (h : ∀ j < k, (s.answer j).isSettled = false) :
    s.unsettled k = k := by
  have hall : ∀ outcome ∈ s.firstAnswers k, (!outcome.isSettled) = true := by
    rw [forall_mem_firstAnswers]
    intro j hj
    rw [h j hj]
    rfl
  unfold unsettled
  rw [List.countP_eq_length.2 hall, length_firstAnswers]

/-- There are more calls than bytes, so some answer is settled by then. -/
theorem exists_isSettled {source : String} {s : Lexer} (h : s.StandsIn source) :
    ∃ j ≤ source.utf8ByteSize, (s.answer j).isSettled = true := by
  by_contra hnone
  have hall : s.unsettled (source.utf8ByteSize + 1) = source.utf8ByteSize + 1 := by
    apply unsettled_eq
    intro j hj
    rw [Bool.eq_false_iff]
    intro hsettled
    exact hnone ⟨j, Nat.le_of_lt_succ hj, hsettled⟩
  have hle := unsettled_le h (source.utf8ByteSize + 1)
  omega

/-- A lexer whose calls come to rest within `size` bytes. -/
structure Settles (s : Lexer) (size : Nat) : Prop where
  /-- No call goes back. -/
  forward (k : Nat) :
    (s.afterTokens k).position.offset ≤ (s.afterTokens (k + 1)).position.offset
  progress (k : Nat) : (s.answer k).isSettled = false →
    (s.afterTokens k).position.offset < (s.afterTokens (k + 1)).position.offset
  repeats (k j : Nat) : (s.answer k).isSettled = true → k ≤ j → s.answer j = s.answer k
  few (k : Nat) : s.unsettled k ≤ size
  constant (k : Nat) : size ≤ k → s.answer k = s.answer size

theorem StandsIn.settles {source : String} {s : Lexer} (h : s.StandsIn source) :
    s.Settles source.utf8ByteSize := by
  refine ⟨?_, ?_, ?_, ?_, ?_⟩
  · intro k
    exact le_offset_read (standsIn_afterTokens h k)
  · intro k hk
    exact lt_offset_read hk
  · intro k j hk hj
    exact answer_of_isSettled hk hj
  · exact unsettled_le h
  · intro k hk
    obtain ⟨j, hj, hsettled⟩ := exists_isSettled h
    rw [answer_of_isSettled hsettled (hj.trans hk), answer_of_isSettled hsettled hj]

/-- A stream holds one item for each byte at most, and its last one. -/
theorem exists_rest_eq_concat {source : String} {s : Lexer} (h : s.StandsIn source)
    (hf : s.finished = false) :
    ∃ items last, s.rest.1 = items ++ [last] ∧ items.length ≤ source.utf8ByteSize ∧
      (∀ outcome ∈ items, outcome.isLast = false) ∧ last.isLast = true := by
  obtain ⟨k, hrest, hbefore, hlast⟩ := exists_rest_eq_firstAnswers hf
  refine ⟨s.firstAnswers k, s.answer k, ?_, ?_, ?_, hlast⟩
  · rw [hrest, firstAnswers_succ]
  · have hall : s.unsettled k = k := by
      apply unsettled_eq
      intro j hj
      exact Outcome.isSettled_of_not_isLast (hbefore j hj)
    have hle := unsettled_le h k
    rw [length_firstAnswers]
    omega
  · rw [forall_mem_firstAnswers]
    exact hbefore

end Lexer

/-! ## The law -/

/-- Asked for tokens without end, a script of `n` bytes never goes back.  It goes
forward until it has come to its end or to an unexpected character, and then that
is the answer for ever.  No more than `n` calls have another answer, from call `n`
on, counted from zero, the answer is the same, and wherever a stream is begun, it
holds `n + 1` items at most, of which only the last is a failure or the end. -/
theorem every_run_settles (source : String) :
    (∀ k, Answers source (List.replicate k .token)
      (((Lexer.ofString source).firstAnswers k).map some)
      ((Lexer.ofString source).afterTokens k).position) ∧
    (Lexer.ofString source).Settles source.utf8ByteSize ∧
    ∀ k, ∃ items last, items.length ≤ source.utf8ByteSize ∧
      (∀ outcome ∈ items, outcome.isLast = false) ∧ last.isLast = true ∧
      ∀ more, ∃ stop,
        Answers source
          (List.replicate k .token ++ List.replicate (items.length + 1 + more) .item)
          (((Lexer.ofString source).firstAnswers k).map some ++
            ((items ++ [last]).map some ++ List.replicate more none)) stop := by
  have hstart := Lexer.standsIn_ofString source
  refine ⟨answers_tokens source, hstart.settles, ?_⟩
  intro k
  have hopen : ((Lexer.ofString source).afterTokens k).finished = false :=
    (Lexer.ofString source).finished_afterTokens k
  obtain ⟨items, last, hrest, hlength, hitems, hlast⟩ :=
    Lexer.exists_rest_eq_concat (Lexer.standsIn_afterTokens hstart k) hopen
  refine ⟨items, last, hlength, hitems, hlast, ?_⟩
  intro more
  have hstream := ((Lexer.ofString source).afterTokens k).pullAll_items more
  rw [hrest, List.length_append, List.length_singleton] at hstream
  have hanswers := answers_pullAll source
    (List.replicate k .token ++ List.replicate (items.length + 1 + more) .item)
  rw [Lexer.pullAll_append, Lexer.pullAll_tokens] at hanswers
  dsimp only at hanswers
  rw [hstream] at hanswers
  exact ⟨_, hanswers⟩

end ImageScript
