-- A text that is read behind another one.  Its positions move, and nothing
-- else does: a lexer that stands somewhere in a script goes on as a fresh one
-- would that is given the rest of the script alone.
import ImageScript.Proofs.Answers
import Mathlib.Data.List.Induction

namespace ImageScript

/-! ## Moved positions -/

namespace Position

/-- A position in a text that itself starts at `p`.  Lines add up, and on the
first line of the text columns do too. -/
def behind (q p : Position) : Position where
  line := p.line + q.line - 1
  column := if q.line = 1 then p.column + q.column - 1 else q.column
  offset := p.offset + q.offset

@[simp] theorem start_behind (p : Position) : start.behind p = p := by
  simp [behind, start]

/-- A byte moves a position in the same way wherever its text starts. -/
theorem afterByte_behind {q : Position} (hline : 1 ≤ q.line) (hcolumn : 1 ≤ q.column)
    (p : Position) (b : UInt8) : (q.afterByte b).behind p = (q.behind p).afterByte b := by
  have hnext : q.line + 1 ≠ 1 := by omega
  have hdown : p.line + (q.line + 1) - 1 = p.line + q.line - 1 + 1 := by omega
  have hright : p.column + (q.column + 1) - 1 = p.column + q.column - 1 + 1 := by omega
  by_cases hb : b = 10
  · simp only [behind, afterByte, if_pos hb, if_neg hnext, hdown, Nat.add_assoc]
  · simp only [behind, afterByte, if_neg hb, hright, Nat.add_assoc]
    split <;> rfl

theorem following_behind (bytes : List UInt8) (p : Position) :
    (following bytes).behind p = bytes.foldl afterByte p := by
  induction bytes using List.reverseRecOn with
  | nil => exact start_behind p
  | append_singleton bytes b ih =>
    have hline : 1 ≤ (following bytes).line := Nat.le_add_right 1 _
    have hcolumn : 1 ≤ (following bytes).column := Nat.le_add_right 1 _
    rw [following_concat, afterByte_behind hline hcolumn, ih, List.foldl_append]
    rfl

theorem after_eq_foldl (p : Position) (cs : List Char) :
    p.after cs = (Utf8.encode cs).foldl afterByte p := by
  induction cs generalizing p with
  | nil => rfl
  | cons c cs ih =>
    rw [after_cons, ih, Utf8.encode_cons, List.foldl_append, afterChar_eq_foldl]

/-- The end of a text that starts at `p`. -/
theorem after_behind (cs : List Char) (p : Position) :
    (start.after cs).behind p = p.after cs := by
  rw [after_start, following_behind, after_eq_foldl]

end Position

/-! ## Moved answers -/

/-- A token of a text that starts at `p`. -/
def Token.behind (t : Token) (p : Position) : Token :=
  { t with start := t.start.behind p }

/-- A failure of a text that starts at `p`. -/
def Failure.behind (e : Failure) (p : Position) : Failure :=
  { e with start := e.start.behind p }

/-- An answer of a text that starts at `p`. -/
def Outcome.behind (outcome : Outcome) (p : Position) : Outcome :=
  match outcome with
  | .ok t => .ok (t.behind p)
  | .error e => .error (e.behind p)

@[simp] theorem Outcome.isLast_behind (outcome : Outcome) (p : Position) :
    (outcome.behind p).isLast = outcome.isLast := by
  cases outcome <;> rfl

/-! ## Moved lexers -/

namespace Lexer

/-- The lexer of a text that starts at `p`. -/
def behind (s : Lexer) (p : Position) : Lexer :=
  { s with position := s.position.behind p }

/-- One byte on, a lexer is in the same place of a moved text, inside a
character or not. -/
theorem moveByte_behind (s : Lexer) (before cs : List Char) (p : Position) :
    (s.behind p).moveByte (p.after before) cs =
      (s.moveByte (Position.start.after before) cs).behind p := by
  cases cs with
  | nil => simp only [moveByte, moveTo, behind, Position.after_behind]
  | cons c cs =>
    obtain ⟨b, bs, hb⟩ := Utf8.exists_firstByte c
    have hbyte : ((Position.start.after before).afterByte b).behind p =
        (p.after before).afterByte b := by
      rw [Position.after_start, ← Position.following_concat, Position.following_behind,
        List.foldl_append, ← Position.after_eq_foldl]
      rfl
    by_cases hc : c.utf8Size = 1
    · rw [Position.afterByte_of_ascii hc hb, Position.afterByte_of_ascii hc hb] at hbyte
      simp only [moveByte, if_pos hc, moveTo, behind, hbyte]
    · rw [Position.afterByte_of_long hc hb, Position.afterByte_of_long hc hb] at hbyte
      simp only [moveByte, if_neg hc, behind, hbyte]

/-- What is found at the front of a text is found wherever the text stands. -/
theorem takeFront_behind (s : Lexer) (before : List Char) (f : Front) (p : Position) :
    (s.behind p).takeFront (p.after before) f =
      ((s.takeFront (Position.start.after before) f).1.behind p,
        (s.takeFront (Position.start.after before) f).2.behind p) := by
  -- every place that is named behind the front is reached along the text from there
  have hafter : ∀ cs, ((Position.start.after before).after cs).behind p =
      (p.after before).after cs := by
    intro cs
    rw [← Position.after_append, Position.after_behind, Position.after_append]
  have hhere : (Position.start.after before).behind p = p.after before := hafter []
  cases f with
  | loneHash rest =>
    have hhash := moveByte_behind s (before ++ ['#']) rest p
    simp only [Position.after_append, Position.after_cons, Position.after_nil] at hhash
    simp only [takeFront, Outcome.behind, Failure.behind, hhere, hhash]
  | _ =>
    simp only [takeFront, moveTo, behind, Outcome.behind, Token.behind, Failure.behind, hhere,
      hafter]

/-- A lexer gives its answers wherever its text stands. -/
theorem read_behind {source : String} {s : Lexer} (h : s.StandsIn source) (p : Position) :
    (s.behind p).read = (s.read.1.behind p, s.read.2.behind p) := by
  rcases read_cases h with ⟨front, gap, rest, _, hp, ha, hsplit, hr⟩ | ⟨ha, _, hr⟩
  · have hposition : (s.behind p).position.after gap = p.after (front ++ gap) := by
      rw [Position.after_append, ← Position.after_behind front, ← hp]
      rfl
    have ha' : (s.behind p).ahead = .text (gap ++ rest) := ha
    rw [read_of_text ha', hsplit, hr]
    dsimp only
    rw [hposition, takeFront_behind]
  · have ha' : (s.behind p).ahead = .brokenCharacter := ha
    rw [read_of_brokenCharacter ha', hr]
    rfl

theorem pull_behind {source : String} {s : Lexer} (h : s.StandsIn source) (pull : Pull)
    (p : Position) :
    (s.behind p).pull pull = ((s.pull pull).1.map (·.behind p), (s.pull pull).2.behind p) := by
  have hread := read_behind h p
  cases pull with
  | token =>
    simp only [Lexer.pull, hread, Option.map_some]
  | item =>
    have hfinished : (s.behind p).finished = s.finished := rfl
    simp only [Lexer.pull, next?, hread, hfinished, Outcome.isLast_behind]
    split <;> rfl

theorem pullAll_behind {source : String} {s : Lexer} (h : s.StandsIn source)
    (pulls : List Pull) (p : Position) :
    (s.behind p).pullAll pulls =
      ((s.pullAll pulls).1.map (Option.map (·.behind p)), (s.pullAll pulls).2.behind p) := by
  induction pulls generalizing s with
  | nil => rfl
  | cons pull pulls ih =>
    simp only [pullAll, pull_behind h, ih (standsIn_pull h pull), List.map_cons]

theorem rest_behind {source : String} {s : Lexer} (h : s.StandsIn source) (p : Position) :
    (s.behind p).rest.1 = s.rest.1.map (·.behind p) := by
  apply rest_eq_map (R := fun s u => s.StandsIn source ∧ u = s.behind p)
  · intro outcome
    exact outcome.isLast_behind p
  · rintro s u ⟨hs, rfl⟩
    have hread := read_behind hs p
    refine ⟨rfl, ?_, ?_⟩
    · rw [hread]
    · intro _
      refine ⟨standsIn_read hs, ?_⟩
      rw [hread]
  · exact ⟨h, rfl⟩

/-! ## Lexers that stand in front of a character -/

/-- Between two characters a lexer is a fresh one for the rest of its script,
moved to where it stands. -/
theorem StandsIn.eq_behind {source : String} {s : Lexer} (h : s.StandsIn source)
    (hf : s.finished = false) {front rest : List Char}
    (hcut : Utf8.splitAt? s.position.offset source.toList = some (front, rest)) :
    s.position = Position.start.after front ∧
      s = (ofString (String.ofList rest)).behind s.position := by
  cases h with
  | @text front' cs finished h =>
    rw [h, Position.offset_after_start, Utf8.splitAt?_length] at hcut
    cases hcut
    refine ⟨rfl, ?_⟩
    subst hf
    simp only [behind, ofString, Position.start_behind, String.toList_ofList]
  | @inside front' rest' c b bs finished h hc hb =>
    rw [Position.splitAt?_inside h hc b] at hcut
    cases hcut

end Lexer

theorem collect_map_behind (outcomes : List Outcome) (p : Position) :
    collect (outcomes.map (·.behind p)) =
      match collect outcomes with
      | .ok tokens => .ok (tokens.map (·.behind p))
      | .error e => .error (e.behind p) := by
  apply collect_map
  · intro t
    rfl
  · intro e
    rfl

/-- What a script comes to where it stands behind something else. -/
theorem collect_rest_behind (source : String) (p : Position) :
    collect ((Lexer.ofString source).behind p).rest.1 =
      match lex source with
      | .ok tokens => .ok (tokens.map (·.behind p))
      | .error e => .error (e.behind p) := by
  rw [Lexer.rest_behind (Lexer.standsIn_ofString source), collect_map_behind]
  rfl

/-! ## The law -/

/-- After any number of tokens and failures, if the script can be cut where it
has been read to, all that follows is what the rest of the script answers on its
own, moved behind that place. -/
theorem a_lexer_remembers_only_its_position (source : String) (k : Nat) :
    ∃ answers p, Answers source (List.replicate k .token) answers p ∧ answers.length = k ∧
      ∀ front rest, Utf8.splitAt? p.offset source.toList = some (front, rest) →
        p = Position.start.after front ∧
        ∀ pulls : List Lexer.Pull, ∃ fresh stop,
          Answers (String.ofList rest) pulls fresh stop ∧
          Answers source (List.replicate k .token ++ pulls)
            (answers ++ fresh.map (Option.map (·.behind p))) (stop.behind p) := by
  have hanswers := answers_pullAll source (List.replicate k .token)
  refine ⟨_, _, hanswers, hanswers.length_eq.trans List.length_replicate, ?_⟩
  intro front rest hcut
  have hstands := Lexer.standsIn_pullAll (Lexer.standsIn_ofString source)
    (List.replicate k .token)
  have hfinished := Lexer.finished_pullAll_tokens (Lexer.ofString source) k
  obtain ⟨hposition, hfresh⟩ := hstands.eq_behind hfinished hcut
  refine ⟨hposition, ?_⟩
  intro pulls
  refine ⟨_, _, answers_pullAll (String.ofList rest) pulls, ?_⟩
  have hall := answers_pullAll source (List.replicate k .token ++ pulls)
  rw [Lexer.pullAll_append, hfresh,
    Lexer.pullAll_behind (Lexer.standsIn_ofString (String.ofList rest))] at hall
  exact hall

/-- A string breaks off at a tab, and behind it the script starts afresh. -/
theorem a_script_starts_afresh_at_a_tab :
    let p : Position := { line := 1, column := 3, offset := 2 }
    ∃ answers, Answers "\"a\tb\nc" [.token] answers p ∧
      Utf8.splitAt? 2 "\"a\tb\nc".toList = some (['"', 'a'], ['\t', 'b', '\n', 'c']) ∧
      ∀ pulls : List Lexer.Pull, ∃ fresh stop,
        Answers "\tb\nc" pulls fresh stop ∧
        Answers "\"a\tb\nc" (.token :: pulls)
          (answers ++ fresh.map (Option.map (·.behind p))) (stop.behind p) := by
  obtain ⟨answers, p, hanswers, -, hlaw⟩ := a_lexer_remembers_only_its_position "\"a\tb\nc" 1
  have hp : p = { line := 1, column := 3, offset := 2 } :=
    (answers_iff.1 hanswers).2.trans (by decide +kernel)
  subst hp
  have hcut : Utf8.splitAt? 2 "\"a\tb\nc".toList =
      some (['"', 'a'], ['\t', 'b', '\n', 'c']) := by
    decide +kernel
  exact ⟨answers, hanswers, hcut, (hlaw _ _ hcut).2⟩

end ImageScript
