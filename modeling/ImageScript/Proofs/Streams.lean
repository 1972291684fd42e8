-- The stream of a lexer, one outcome after the other: it goes on while tokens
-- come and is over with the first failure or the end of the input.
import ImageScript.Lexer

namespace ImageScript

namespace Lexer

/-! ## One step -/

@[simp] theorem finished_takeFront (s : Lexer) (p : Position) (f : Front) :
    (s.takeFront p f).2.finished = s.finished := by
  cases f with
  | loneHash rest =>
    cases rest with
    | nil => rfl
    | cons c rest =>
      simp only [takeFront, moveByte]
      split <;> rfl
  | _ => rfl

/-- Reading leaves it to the stream to be over. -/
@[simp] theorem finished_read (s : Lexer) : s.read.2.finished = s.finished := by
  cases ha : s.ahead with
  | text cs => rw [read_of_text ha, finished_takeFront]
  | brokenCharacter => rw [read_of_brokenCharacter ha]

/-- What is found at a place does not hang on the lexer. -/
theorem takeFront_fst (s s' : Lexer) (p : Position) (f : Front) :
    (s.takeFront p f).1 = (s'.takeFront p f).1 := by
  cases f <;> rfl

theorem rest_of_isLast {s : Lexer} (hf : s.finished = false) (hl : s.read.1.isLast = true) :
    s.rest.1 = [s.read.1] := by
  rw [rest, hf]
  simp only [Bool.false_eq_true, if_false, dif_pos hl]

theorem rest_of_not_isLast {s : Lexer} (hf : s.finished = false) (hl : s.read.1.isLast = false) :
    s.rest.1 = s.read.1 :: s.read.2.rest.1 := by
  rw [rest, hf]
  simp only [hl, Bool.false_eq_true, if_false, dite_false]

theorem rest_of_finished {s : Lexer} (hf : s.finished = true) : s.rest.1 = [] := by
  rw [rest, if_pos hf]

/-! ## Item by item -/

theorem pullAll_items_of_finished {s : Lexer} (hf : s.finished = true) (n : Nat) :
    (s.pullAll (List.replicate n .item)).1 = List.replicate n none := by
  induction n with
  | zero => rfl
  | succ n ih =>
    have hstay : s.pull .item = (none, s) := if_pos hf
    rw [List.replicate_succ, List.replicate_succ, pullAll, hstay]
    dsimp only
    rw [ih]

/-- Asked for item after item, a lexer gives all that its stream holds, and
nothing from then on. -/
theorem pullAll_items (s : Lexer) (n : Nat) :
    (s.pullAll (List.replicate (s.rest.1.length + n) .item)).1 =
      s.rest.1.map some ++ List.replicate n none := by
  induction hm : s.remaining using Nat.strongRecOn generalizing s with
  | ind m ih =>
    by_cases hf : s.finished = true
    · rw [rest_of_finished hf, List.length_nil, Nat.zero_add]
      exact pullAll_items_of_finished hf n
    · have hopen : s.finished = false := Bool.eq_false_iff.2 hf
      have hstep : s.pull .item =
          (some s.read.1, { s.read.2 with finished := s.read.1.isLast }) := if_neg hf
      cases hl : s.read.1.isLast with
      | true =>
        rw [rest_of_isLast hopen hl, List.length_singleton, Nat.add_comm, List.replicate_succ,
          pullAll, hstep, hl]
        dsimp only
        rw [pullAll_items_of_finished rfl]
        rfl
      | false =>
        have hsame : ({ s.read.2 with finished := false } : Lexer) = s.read.2 := by
          rw [← hopen, ← finished_read s]
        have hlt := remaining_read_lt hl
        have hrest := ih s.read.2.remaining (by omega) s.read.2 rfl
        rw [rest_of_not_isLast hopen hl, List.length_cons, Nat.add_right_comm,
          List.replicate_succ, pullAll, hstep, hl]
        dsimp only
        rw [hsame, hrest]
        rfl

end Lexer

/-! ## What a stream comes to -/

theorem collect_map_ok_append (tokens : List Token) (outcomes : List Outcome) :
    collect (tokens.map .ok ++ outcomes) = (collect outcomes).map (tokens ++ ·) := by
  induction tokens with
  | nil => cases h : collect outcomes <;> simp [h, Except.map]
  | cons t tokens ih =>
    rw [List.map_cons, List.cons_append, collect, ih]
    cases collect outcomes <;> rfl

/-- A stream that ends well comes to its tokens. -/
theorem collect_ok (tokens : List Token) (t : Token) :
    collect (tokens.map .ok ++ [.ok t]) = .ok (tokens ++ [t]) := by
  rw [collect_map_ok_append]
  rfl

/-- A stream that ends with a failure comes to the failure. -/
theorem collect_error (tokens : List Token) (e : Failure) :
    collect (tokens.map .ok ++ [.error e]) = .error e := by
  rw [collect_map_ok_append]
  rfl

namespace Lexer

theorem collect_rest_of_token {s : Lexer} {t : Token} (hf : s.finished = false)
    (hr : s.read.1 = .ok t) (hk : t.kind ≠ .endOfInput) :
    collect s.rest.1 = (collect s.read.2.rest.1).map (t :: ·) := by
  have hl : s.read.1.isLast = false := by
    rw [hr]
    exact Outcome.isLast_ok hk
  rw [rest_of_not_isLast hf hl, hr]
  rfl

theorem collect_rest_of_end {s : Lexer} {t : Token} (hf : s.finished = false)
    (hr : s.read.1 = .ok t) (hk : t.kind = .endOfInput) : collect s.rest.1 = .ok [t] := by
  have hl : s.read.1.isLast = true := by
    rw [hr]
    exact decide_eq_true hk
  rw [rest_of_isLast hf hl, hr]
  rfl

theorem collect_rest_of_error {s : Lexer} {e : Failure} (hf : s.finished = false)
    (hr : s.read.1 = .error e) : collect s.rest.1 = .error e := by
  have hl : s.read.1.isLast = true := by
    rw [hr]
    rfl
  rw [rest_of_isLast hf hl, hr]
  rfl

/-- Two lexers that read the same have the same stream. -/
theorem rest_congr {s s' : Lexer} (hf : s.finished = s'.finished) (hr : s.read = s'.read) :
    s.rest.1 = s'.rest.1 := by
  rw [rest, rest, hf, hr]
  split <;> rfl

/-! ## Two streams side by side -/

/-- A relation of two lexers that every token preserves carries over to their
streams: if `move` gives the answers of the one from those of the other, it gives
the whole stream. -/
theorem rest_eq_map {R : Lexer → Lexer → Prop} {move : Outcome → Outcome}
    (hlast : ∀ outcome, (move outcome).isLast = outcome.isLast)
    (hstep : ∀ s u, R s u → u.finished = s.finished ∧ u.read.1 = move s.read.1 ∧
      (s.read.1.isLast = false → R s.read.2 u.read.2))
    {s u : Lexer} (h : R s u) : u.rest.1 = s.rest.1.map move := by
  induction hm : s.remaining using Nat.strongRecOn generalizing s u with
  | ind m ih =>
    obtain ⟨hfinished, hread, hnext⟩ := hstep s u h
    have hend : u.read.1.isLast = s.read.1.isLast := by rw [hread, hlast]
    by_cases hf : s.finished = true
    · rw [rest_of_finished hf, rest_of_finished (hfinished.trans hf)]
      rfl
    · have hopen : s.finished = false := Bool.eq_false_iff.2 hf
      have hopen' : u.finished = false := hfinished.trans hopen
      cases hl : s.read.1.isLast with
      | true =>
        rw [rest_of_isLast hopen hl, rest_of_isLast hopen' (hend.trans hl), hread]
        rfl
      | false =>
        have hlt := remaining_read_lt hl
        rw [rest_of_not_isLast hopen hl, rest_of_not_isLast hopen' (hend.trans hl), hread,
          List.map_cons, ih s.read.2.remaining (by omega) (hnext hl) rfl]

end Lexer

/-- A stream that is moved comes to what the stream comes to, moved. -/
theorem collect_map {move : Outcome → Outcome} {f : Token → Token} {g : Failure → Failure}
    (hok : ∀ t, move (.ok t) = .ok (f t)) (herror : ∀ e, move (.error e) = .error (g e))
    (outcomes : List Outcome) :
    collect (outcomes.map move) =
      match collect outcomes with
      | .ok tokens => .ok (tokens.map f)
      | .error e => .error (g e) := by
  induction outcomes with
  | nil => rfl
  | cons outcome outcomes ih =>
    cases outcome with
    | error e =>
      rw [List.map_cons, herror]
      rfl
    | ok t =>
      rw [List.map_cons, hok, collect, collect, ih]
      cases collect outcomes <;> rfl

end ImageScript
