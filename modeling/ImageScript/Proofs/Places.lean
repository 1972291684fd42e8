-- Where a lexer can stand, whatever it was asked before and however often it
-- failed: in front of some characters of its script, or one byte inside one of
-- them.  Each call starts at such a place and ends at one, so what holds of one
-- answer given there holds of every answer of every run.
import ImageScript.Lexer

namespace ImageScript

/-! ## True positions -/

namespace Position

/-- The position is the one that is found by counting the bytes before it. -/
def TrueIn (p : Position) (source : String) : Prop :=
  p = following ((Utf8.encode source.toList).take p.offset)

theorem trueIn_following {source : String} {before behind : List UInt8}
    (h : Utf8.encode source.toList = before ++ behind) : (following before).TrueIn source := by
  unfold TrueIn
  have ho : (following before).offset = before.length := rfl
  rw [h, ho, List.take_left]

theorem trueIn_after {source : String} {front rest : List Char}
    (h : source.toList = front ++ rest) : (start.after front).TrueIn source := by
  have h' : Utf8.encode source.toList = Utf8.encode front ++ Utf8.encode rest := by
    rw [h, Utf8.encode_append]
  rw [after_start]
  exact trueIn_following h'

/-- A character of one byte moves a position as its byte does. -/
theorem afterByte_of_ascii {c : Char} {b : UInt8} {bs : List UInt8} (hc : c.utf8Size = 1)
    (hb : String.utf8EncodeChar c = b :: bs) (p : Position) : p.afterByte b = p.afterChar c := by
  rw [afterChar_eq_foldl, hb]
  rw [String.utf8EncodeChar_eq_singleton hc] at hb
  cases hb
  rfl

/-- The first byte of a longer character moves a position by one column. -/
theorem afterByte_of_long {c : Char} {b : UInt8} {bs : List UInt8} (hc : c.utf8Size ≠ 1)
    (hb : String.utf8EncodeChar c = b :: bs) (p : Position) :
    p.afterByte b = { line := p.line, column := p.column + 1, offset := p.offset + 1 } := by
  have hn : c ≠ '\n' := by
    rintro rfl
    exact hc rfl
  have hb10 : b ≠ 10 := by
    apply ne_lineFeed_of_mem_utf8EncodeChar hn
    rw [hb]
    exact List.mem_cons_self
  unfold afterByte
  rw [if_neg hb10]

/-- Behind the first byte of a longer character a script cannot be cut. -/
theorem splitAt?_inside {source : String} {front rest : List Char} {c : Char}
    (h : source.toList = front ++ c :: rest) (hc : c.utf8Size ≠ 1) (b : UInt8) :
    Utf8.splitAt? (following (Utf8.encode front ++ [b])).offset source.toList = none := by
  have hoffset : (following (Utf8.encode front ++ [b])).offset = Utf8.length front + 1 := by
    show (Utf8.encode front ++ [b]).length = _
    rw [List.length_append, Utf8.length_encode]
    rfl
  have hsize : 1 < c.utf8Size := by
    have := c.utf8Size_pos
    omega
  rw [hoffset, h, Utf8.splitAt?_inside Nat.one_pos hsize]

end Position

/-! ## Places -/

namespace Lexer

/-- The lexer stands in front of a character of the script, at its end, or
behind the first byte of a longer character. -/
inductive StandsIn (source : String) : Lexer → Prop
  | text {front cs : List Char} {finished : Bool} :
      source.toList = front ++ cs →
      StandsIn source { position := Position.start.after front, ahead := .text cs, finished }
  | inside {front rest : List Char} {c : Char} {b : UInt8} {bs : List UInt8} {finished : Bool} :
      source.toList = front ++ c :: rest → c.utf8Size ≠ 1 → String.utf8EncodeChar c = b :: bs →
      StandsIn source
        { position := Position.following (Utf8.encode front ++ [b]), ahead := .brokenCharacter,
          finished }

theorem standsIn_ofString (source : String) : (ofString source).StandsIn source := by
  have h : source.toList = [] ++ source.toList := rfl
  exact .text h

/-- Where a lexer stands does not hang on its stream. -/
theorem StandsIn.finished {source : String} {s : Lexer} (h : s.StandsIn source) (b : Bool) :
    ({ s with finished := b } : Lexer).StandsIn source := by
  cases h with
  | text h => exact .text h
  | inside h hc hb => exact .inside h hc hb

theorem standsIn_moveTo {source : String} (s : Lexer) {front cs : List Char}
    (h : source.toList = front ++ cs) :
    (s.moveTo (Position.start.after front) cs).StandsIn source := .text h

/-- One byte on there may be no character any more. -/
theorem standsIn_moveByte {source : String} (s : Lexer) {front cs : List Char}
    (h : source.toList = front ++ cs) :
    (s.moveByte (Position.start.after front) cs).StandsIn source := by
  cases cs with
  | nil => exact standsIn_moveTo s h
  | cons c cs =>
    by_cases hc : c.utf8Size = 1
    · simp only [moveByte, if_pos hc]
      have hf : (Position.start.after front).afterChar c = Position.start.after (front ++ [c]) := by
        rw [Position.after_append, Position.after_cons, Position.after_nil]
      rw [hf]
      exact standsIn_moveTo s (by rw [h, List.append_cons])
    · simp only [moveByte, if_neg hc]
      obtain ⟨b, bs, hb⟩ := Utf8.exists_firstByte c
      have hp : (Position.start.after front).afterByte b =
          Position.following (Utf8.encode front ++ [b]) := by
        rw [Position.after_start, Position.following_concat]
      rw [Position.afterByte_of_long hc hb] at hp
      rw [hp]
      exact .inside h hc hb

/-- What is found at the front of a text leaves the lexer at a place of the
script. -/
theorem standsIn_takeFront {source : String} (s : Lexer) {before : List Char} {f : Front}
    (h : source.toList = before ++ f.input) :
    (s.takeFront (Position.start.after before) f).2.StandsIn source := by
  cases f with
  | nothing => exact standsIn_moveTo s h
  | lexeme kind text rest =>
    dsimp only [takeFront]
    rw [← Position.after_append]
    exact standsIn_moveTo s (by rw [h, Front.input, List.append_assoc])
  | loneHash rest =>
    have hp : (Position.start.after before).afterChar '#' =
        Position.start.after (before ++ ['#']) := by
      rw [Position.after_append, Position.after_cons, Position.after_nil]
    dsimp only [takeFront]
    rw [hp]
    exact standsIn_moveByte s (by rw [h, Front.input, List.append_cons])
  | illegalInString body c rest =>
    dsimp only [takeFront]
    rw [← Position.after_append]
    exact standsIn_moveTo s (by rw [h, Front.input, List.append_assoc])
  | unterminatedString body =>
    dsimp only [takeFront]
    rw [← Position.after_append]
    exact standsIn_moveTo s (by rw [h, Front.input, List.append_nil])
  | tooLarge digits rest =>
    dsimp only [takeFront]
    rw [← Position.after_append]
    exact standsIn_moveTo s (by rw [h, Front.input, List.append_assoc])
  | unexpected c rest => exact standsIn_moveTo s h

/-! ## One call -/

/-- A call made at some place either takes the front of the text that is left,
behind a gap, or finds the rest of a broken character and stays. -/
theorem read_cases {source : String} {s : Lexer} (h : s.StandsIn source) :
    (∃ front gap rest, source.toList = front ++ gap ++ rest ∧
      s.position = Position.start.after front ∧ s.ahead = .text (gap ++ rest) ∧
      splitGap .blanks (gap ++ rest) = (gap, rest) ∧
      s.read = s.takeFront (Position.start.after (front ++ gap)) (Front.ofText rest)) ∨
    (s.ahead = .brokenCharacter ∧ s.position.TrueIn source ∧
      s.read = (.error { fault := .unexpectedCharacter replacement, start := s.position,
                         length := replacement.utf8Size }, s)) := by
  cases h with
  | @text front cs finished h =>
    have hs := splitGap_append .blanks cs
    refine Or.inl ⟨front, (splitGap .blanks cs).1, (splitGap .blanks cs).2, ?_, rfl, ?_, ?_, ?_⟩
    · rw [List.append_assoc, hs, h]
    · rw [hs]
    · rw [hs]
    · rw [read_of_text rfl, Position.after_append]
  | @inside front rest c b bs finished h hc hb =>
    have h' : Utf8.encode source.toList =
        (Utf8.encode front ++ [b]) ++ (bs ++ Utf8.encode rest) := by
      rw [h, Utf8.encode_append, Utf8.encode_cons, hb]
      simp only [List.append_assoc, List.cons_append, List.nil_append]
    exact Or.inr ⟨rfl, Position.trueIn_following h', read_of_brokenCharacter rfl⟩

theorem standsIn_read {source : String} {s : Lexer} (h : s.StandsIn source) :
    s.read.2.StandsIn source := by
  rcases read_cases h with ⟨front, gap, rest, hs, _, _, _, hr⟩ | ⟨_, _, hr⟩
  · rw [hr]
    apply standsIn_takeFront
    rw [Front.input_ofText, hs]
  · rw [hr]
    exact h

theorem standsIn_pull {source : String} {s : Lexer} (h : s.StandsIn source) (p : Pull) :
    (s.pull p).2.StandsIn source := by
  rcases pull_cases s p with ⟨-, finished, hnext⟩ | hstay
  · rw [hnext]
    exact (standsIn_read h).finished finished
  · rw [hstay]
    exact h

/-! ## Whole runs -/

/-- An answer of a call other than none is what is read there. -/
theorem eq_read_of_pull {s : Lexer} {p : Pull} {outcome : Outcome}
    (h : (s.pull p).1 = some outcome) : outcome = s.read.1 := by
  rcases pull_cases s p with ⟨hread, -⟩ | hstay
  · rw [hread] at h
    exact (Option.some.inj h).symm
  · rw [hstay] at h
    cases h

/-- Every answer of a run is read at some place of the script. -/
theorem exists_read_of_mem_pullAll {source : String} {s : Lexer} (h : s.StandsIn source)
    {pulls : List Pull} {outcome : Outcome} (ho : some outcome ∈ (s.pullAll pulls).1) :
    ∃ s' : Lexer, s'.StandsIn source ∧ outcome = s'.read.1 := by
  induction pulls generalizing s with
  | nil => cases ho
  | cons p pulls ih =>
    rcases List.mem_cons.1 ho with ho | ho
    · exact ⟨s, h, eq_read_of_pull ho.symm⟩
    · exact ih (standsIn_pull h p) ho

end Lexer

end ImageScript
