-- Every token is a cut out of its script: it starts and ends between two
-- characters, and holds printable ASCII alone.  Tokens come in the order of
-- the script and never overlap, whatever fails between two of them.
import ImageScript.Proofs.ByteByByte

namespace ImageScript

/-! ## Cuts -/

/-- The token is a piece of the script.  Only the end of the input is empty,
and only a string holds a space. -/
structure Token.CutFrom (t : Token) (source : String) : Prop where
  cut : Token.cut? t.kind t.start t.length source = some t
  inside : t.span.stop ≤ source.utf8ByteSize
  startsBetween : ∃ front rest, Utf8.splitAt? t.span.offset source.toList = some (front, rest)
  stopsBetween : ∃ front rest, Utf8.splitAt? t.span.stop source.toList = some (front, rest)
  printable : ∀ b ∈ Utf8.encode t.text.toList,
    0x20 ≤ b.toNat ∧ b.toNat ≤ 0x7E ∧ (b = 0x20 → t.kind = .literal .string)
  empty_iff : t.length = 0 ↔ t.kind = .endOfInput
  atEnd : t.kind = .endOfInput → t.span.offset = source.utf8ByteSize

theorem Token.length_ofList (kind : Kind) (start : Position) (text : List Char) :
    ({ kind, start, text := String.ofList text } : Token).length = Utf8.length text := by
  unfold length
  rw [Utf8.utf8ByteSize_eq_length, String.toList_ofList]

/-- The bytes of ASCII characters are those characters. -/
theorem Utf8.exists_of_mem_encode {cs : List Char} (h : ∀ c ∈ cs, c.utf8Size = 1) {b : UInt8}
    (hb : b ∈ encode cs) : ∃ c ∈ cs, c.toNat = b.toNat := by
  obtain ⟨c, hc, hb⟩ := List.mem_flatMap.1 hb
  rw [String.utf8EncodeChar_eq_singleton (h c hc), List.mem_singleton] at hb
  have hlow := utf8Size_eq_one_iff.1 (h c hc)
  have hval : b.toNat = c.toNat % 256 := by
    rw [hb, UInt32.toNat_toUInt8]
    rfl
  exact ⟨c, hc, by omega⟩

/-- A piece of a script is a cut, if its characters may stand in a token. -/
theorem Token.cutFrom_of_piece {source : String} {front text rest : List Char} {kind : Kind}
    (h : source.toList = front ++ text ++ rest)
    (hprint : ∀ c ∈ text, 32 ≤ c.toNat ∧ c.toNat ≤ 126 ∧ (c = ' ' → kind = .literal .string))
    (hempty : text = [] ↔ kind = .endOfInput) (hend : kind = .endOfInput → rest = []) :
    CutFrom { kind, start := Position.start.after front, text := String.ofList text } source := by
  have hstart : (Position.start.after front).offset = Utf8.length front :=
    Position.offset_after_start front
  have hlength := Token.length_ofList kind (Position.start.after front) text
  have hsize : source.utf8ByteSize = Utf8.length front + Utf8.length text + Utf8.length rest := by
    rw [Utf8.utf8ByteSize_eq_length, h, Utf8.length_append, Utf8.length_append]
  have hstop : ({ kind, start := Position.start.after front, text := String.ofList text } :
      Token).span.stop = Utf8.length (front ++ text) := by
    unfold span Span.stop
    rw [hlength, hstart, Utf8.length_append]
  refine ⟨?_, ?_, ?_, ?_, ?_, ?_, ?_⟩
  · have hslice : Utf8.slice? (Utf8.length front) (Utf8.length text) source.toList = some text :=
      Utf8.slice?_eq_some_iff.2 ⟨front, rest, h, rfl, rfl⟩
    unfold cut?
    rw [hlength, hstart, hslice]
    rfl
  · rw [hstop, hsize, Utf8.length_append]
    omega
  · refine ⟨front, text ++ rest, ?_⟩
    show Utf8.splitAt? (Position.start.after front).offset _ = _
    rw [hstart, h, List.append_assoc]
    exact Utf8.splitAt?_length front (text ++ rest)
  · refine ⟨front ++ text, rest, ?_⟩
    rw [hstop, h]
    exact Utf8.splitAt?_length (front ++ text) rest
  · intro b hb
    have hascii : ∀ c ∈ text, c.utf8Size = 1 := by
      intro c hc
      have := hprint c hc
      exact utf8Size_eq_one_iff.2 (by omega)
    rw [String.toList_ofList] at hb
    obtain ⟨c, hc, heq⟩ := Utf8.exists_of_mem_encode hascii hb
    obtain ⟨hlow, hhigh, hspace⟩ := hprint c hc
    refine ⟨by omega, by omega, ?_⟩
    rintro rfl
    apply hspace
    exact Char.toNat_inj.1 heq
  · rw [hlength, ← hempty]
    constructor
    · intro hzero
      cases text with
      | nil => rfl
      | cons c cs =>
        have := c.utf8Size_pos
        rw [Utf8.length_cons] at hzero
        omega
    · rintro rfl
      rfl
  · intro hk
    have htext := hempty.2 hk
    have hrest := hend hk
    show (Position.start.after front).offset = _
    rw [hstart, hsize, htext, hrest]
    rfl

/-- A piece of a script with the text of a lexeme is a cut. -/
theorem Lexeme.cutFrom {source : String} {front text rest : List Char} {kind : Kind}
    (hl : Lexeme kind text) (h : source.toList = front ++ text ++ rest) :
    Token.CutFrom { kind, start := Position.start.after front, text := String.ofList text }
      source := by
  apply Token.cutFrom_of_piece h
  · intro c hc
    exact hl.printable hc
  · exact iff_of_false hl.ne_nil hl.kind_ne_endOfInput
  · intro hk
    exact absurd hk hl.kind_ne_endOfInput

/-- So is the end of the input. -/
theorem cutFrom_end {source : String} {front : List Char} (h : source.toList = front) :
    Token.CutFrom { kind := .endOfInput, start := Position.start.after front, text := "" }
      source := by
  have h' : source.toList = front ++ [] ++ [] := by rw [h, List.append_nil, List.append_nil]
  apply Token.cutFrom_of_piece h'
  · intro c hc
    cases hc
  · exact iff_of_true rfl rfl
  · intro _
    rfl

/-! ## One call -/

namespace Lexer

theorem le_offset_moveByte (s : Lexer) (p : Position) (cs : List Char) :
    p.offset ≤ (s.moveByte p cs).position.offset := by
  cases cs with
  | nil => exact Nat.le_refl _
  | cons c cs =>
    dsimp only [moveByte]
    split
    · dsimp only [moveTo]
      rw [Position.offset_afterChar]
      omega
    · exact Nat.le_succ _

/-- No call goes back, not even one that fails. -/
theorem le_offset_takeFront (s : Lexer) (p : Position) (f : Front) :
    p.offset ≤ (s.takeFront p f).2.position.offset := by
  have hafter : ∀ cs : List Char, p.offset ≤ (p.after cs).offset := by
    intro cs
    rw [Position.offset_after]
    omega
  cases f with
  | nothing => exact Nat.le_refl _
  | lexeme kind text rest => exact hafter text
  | loneHash rest =>
    have hhash := le_offset_moveByte s (p.afterChar '#') rest
    rw [Position.offset_afterChar] at hhash
    dsimp only [takeFront]
    omega
  | illegalInString body c rest => exact hafter ('"' :: body)
  | unterminatedString body => exact hafter ('"' :: body)
  | tooLarge digits rest => exact hafter digits
  | unexpected c rest => exact Nat.le_refl _

theorem le_offset_read {source : String} {s : Lexer} (h : s.StandsIn source) :
    s.position.offset ≤ s.read.2.position.offset := by
  rcases read_cases h with ⟨front, gap, rest, hs, hp, _, _, hr⟩ | ⟨_, _, hr⟩
  · have hle := le_offset_takeFront s (Position.start.after (front ++ gap)) (Front.ofText rest)
    rw [Position.after_append, Position.offset_after, ← hp] at hle
    rw [hr, Position.after_append, ← hp]
    omega
  · rw [hr]

/-- A token that is found at the front of a text is a cut, and the lexer goes
on where the token stops. -/
theorem cutFrom_takeFront {source : String} (s : Lexer) {before text : List Char}
    (h : source.toList = before ++ text) {t : Token}
    (ht : (s.takeFront (Position.start.after before) (Front.ofText text)).1 = .ok t) :
    t.CutFrom source ∧ t.start = Position.start.after before ∧
      t.span.stop =
        (s.takeFront (Position.start.after before) (Front.ofText text)).2.position.offset := by
  have hinput := Front.input_ofText text
  cases hf : Front.ofText text with
  | nothing =>
    rw [hf] at ht hinput
    cases ht
    have hend : source.toList = before := by rw [h, ← hinput, Front.input, List.append_nil]
    exact ⟨cutFrom_end hend, rfl, rfl⟩
  | lexeme kind word rest =>
    have hl := Front.lexeme_of_ofText hf
    rw [hf] at ht hinput
    cases ht
    have hcut : source.toList = before ++ word ++ rest := by
      rw [h, ← hinput, Front.input, List.append_assoc]
    refine ⟨hl.cutFrom hcut, rfl, ?_⟩
    have hlength := Token.length_ofList kind (Position.start.after before) word
    unfold Token.span Span.stop
    rw [hlength]
    dsimp only [takeFront, moveTo]
    rw [Position.offset_after _ word]
  | _ =>
    rw [hf] at ht
    cases ht

theorem cutFrom_read {source : String} {s : Lexer} (h : s.StandsIn source) {t : Token}
    (ht : s.read.1 = .ok t) :
    t.CutFrom source ∧ s.position.offset ≤ t.span.offset ∧
      t.span.stop = s.read.2.position.offset := by
  rcases read_cases h with ⟨front, gap, rest, hs, hp, _, _, hr⟩ | ⟨_, _, hr⟩
  · rw [hr] at ht ⊢
    obtain ⟨hcut, hstart, hstop⟩ := cutFrom_takeFront s hs ht
    refine ⟨hcut, ?_, hstop⟩
    show s.position.offset ≤ t.start.offset
    rw [hstart, Position.after_append, Position.offset_after, ← hp]
    omega
  · rw [hr] at ht
    cases ht

end Lexer

/-! ## Whole runs -/

/-- The tokens among some answers, in order. -/
def tokensIn (answers : List (Option Outcome)) : List Token :=
  answers.filterMap fun answer => match answer with
    | some (.ok t) => some t
    | _ => none

theorem tokensIn_cons_ok (t : Token) (answers : List (Option Outcome)) :
    tokensIn (some (.ok t) :: answers) = t :: tokensIn answers := rfl

theorem tokensIn_cons_error (e : Failure) (answers : List (Option Outcome)) :
    tokensIn (some (.error e) :: answers) = tokensIn answers := rfl

theorem tokensIn_cons_none (answers : List (Option Outcome)) :
    tokensIn (none :: answers) = tokensIn answers := rfl

/-- The tokens of a run are cuts, one behind the other, and none of them starts
before the place where the run began. -/
theorem Lexer.cutFrom_pullAll {source : String} {s : Lexer} (h : s.StandsIn source)
    (pulls : List Pull) :
    (∀ t ∈ tokensIn (s.pullAll pulls).1, t.CutFrom source ∧ s.position.offset ≤ t.span.offset) ∧
      (tokensIn (s.pullAll pulls).1).Pairwise fun t u => t.span.stop ≤ u.span.offset := by
  induction pulls generalizing s with
  | nil =>
    refine ⟨?_, List.Pairwise.nil⟩
    intro t ht
    cases ht
  | cons pull pulls ih =>
    obtain ⟨hcut, hpair⟩ := ih (standsIn_pull h pull)
    have hle := le_offset_read h
    dsimp only [pullAll]
    rcases pull_cases s pull with ⟨hread, finished, hnext⟩ | hstay
    · have hposition : (s.pull pull).2.position = s.read.2.position := by rw [hnext]
      rw [hposition] at hcut
      have hlater : ∀ t ∈ tokensIn ((s.pull pull).2.pullAll pulls).1,
          t.CutFrom source ∧ s.position.offset ≤ t.span.offset := by
        intro t ht
        obtain ⟨htcut, htle⟩ := hcut t ht
        exact ⟨htcut, by omega⟩
      rw [hread]
      cases houtcome : s.read.1 with
      | error e =>
        rw [tokensIn_cons_error]
        exact ⟨hlater, hpair⟩
      | ok t =>
        obtain ⟨htcut, htle, htstop⟩ := cutFrom_read h houtcome
        rw [tokensIn_cons_ok, List.forall_mem_cons, List.pairwise_cons]
        refine ⟨⟨⟨htcut, htle⟩, hlater⟩, ?_, hpair⟩
        intro u hu
        rw [htstop]
        exact (hcut u hu).2
    · rw [hstay] at hcut hpair ⊢
      rw [tokensIn_cons_none]
      exact ⟨hcut, hpair⟩

/-- No call makes the machine break down, and what it gives are the lexer's
answers: every token among them is a cut out of the script, and starts where
all earlier tokens have stopped. -/
theorem no_call_breaks_down_and_no_tokens_overlap (source : String) (pulls : List Lexer.Pull) :
    ∃ answers last,
      (Machine.ofString source).pullAll pulls = some (answers, last) ∧
      ((Lexer.ofString source).pullAll pulls).1 = answers ∧
      (∀ t ∈ tokensIn answers, t.CutFrom source) ∧
      (tokensIn answers).Pairwise fun t u => t.span.stop ≤ u.span.offset := by
  obtain ⟨last, hall⟩ := Machine.pullAll_ofString source pulls
  obtain ⟨hcut, hpair⟩ := Lexer.cutFrom_pullAll (Lexer.standsIn_ofString source) pulls
  refine ⟨_, last, hall, rfl, ?_, hpair⟩
  intro t ht
  exact (hcut t ht).1

/-- A lone hash takes the first byte of the character behind it, and the
machine stays inside that character. -/
example :
    ((Machine.ofString "#é").pullAll [.token, .token]).map Prod.fst =
      some [
        some (.error { fault := .loneHash, start := .start, length := 1 }),
        some (.error { fault := .unexpectedCharacter Lexer.replacement,
                       start := { line := 1, column := 3, offset := 2 }, length := 3 })] := by
  decide +kernel

end ImageScript
