-- Where failures lie, and where a lexer stands behind them.  A failure can be
-- shown in its script, and the lexer goes on between two characters.  One thing
-- breaks this: a lone hash takes the byte behind it along, and where that byte
-- is the first of a longer character, the lexer is lost inside the character.
import ImageScript.Proofs.Answers
import ImageScript.Proofs.Cuts
import ImageScript.Proofs.Failures

namespace ImageScript

/-! ## Failures in a script -/

/-- The failure can be shown in the script: its span is a piece of the script,
not an empty one, and a failure that names a character covers just that. -/
structure Failure.FitsIn (e : Failure) (source : String) : Prop where
  nonempty : 0 < e.span.length
  inside : e.span.stop ≤ source.utf8ByteSize
  startsBetween : ∃ front rest, Utf8.splitAt? e.span.offset source.toList = some (front, rest)
  stopsBetween : ∃ front rest, Utf8.splitAt? e.span.stop source.toList = some (front, rest)
  names : ∀ c, e.fault = .unexpectedCharacter c ∨ e.fault = .illegalInString c →
    Utf8.slice? e.span.offset e.span.length source.toList = some [c]

/-- The failure is a lone hash in front of a character of more than one byte. -/
def Failure.BreaksIn (e : Failure) (source : String) : Prop :=
  e.fault = .loneHash ∧
    ∃ c, Utf8.charAt? (e.span.offset + 1) source.toList = some c ∧ c.utf8Size ≠ 1

/-- The failure that a lexer reports inside a character. -/
def Failure.lostAt (p : Position) : Failure where
  fault := .unexpectedCharacter Lexer.replacement
  start := p
  length := Lexer.replacement.utf8Size

/-- A stretch at fault is a piece of the script. -/
theorem Faulty.fitsIn {before stretch after : List Char} {fault : Fault}
    (h : Faulty before stretch after fault) {source : String} {front : List Char}
    (hs : source.toList = front ++ (before ++ stretch ++ after)) :
    Failure.FitsIn { fault, start := (Position.start.after front).after before,
                     length := Utf8.length stretch } source := by
  have hs' : source.toList = (front ++ before) ++ stretch ++ after := by
    rw [hs]
    simp only [List.append_assoc]
  have hspan : Failure.span { fault, start := (Position.start.after front).after before,
                              length := Utf8.length stretch } =
      ⟨Utf8.length (front ++ before), Utf8.length stretch⟩ := by
    rw [← Position.after_append, Failure.span, Position.offset_after_start]
  have hstop : Span.stop ⟨Utf8.length (front ++ before), Utf8.length stretch⟩ =
      Utf8.length (front ++ before ++ stretch) := (Utf8.length_append _ _).symm
  refine ⟨?_, ?_, ⟨front ++ before, stretch ++ after, ?_⟩,
    ⟨front ++ before ++ stretch, after, ?_⟩, ?_⟩
  · rw [hspan]
    cases h <;> exact Nat.add_pos_left (Char.utf8Size_pos _) _
  · rw [hspan, hstop, Utf8.utf8ByteSize_eq_length, hs', Utf8.length_append _ after]
    exact Nat.le_add_right _ _
  · rw [hspan, hs', List.append_assoc _ stretch]
    exact Utf8.splitAt?_length _ _
  · rw [hspan, hstop, hs']
    exact Utf8.splitAt?_length _ _
  · intro c hc
    have hstretch : stretch = [c] := by
      rcases hc with rfl | rfl <;> cases h <;> rfl
    rw [hspan, hs', Utf8.slice?_eq_some_iff]
    exact ⟨front ++ before, after, by rw [hstretch], rfl, by rw [hstretch]⟩

/-- What stands behind a lone hash tells whether it breaks a character. -/
theorem Failure.breaksIn_loneHash_iff {source : String} {before rest : List Char}
    (h : source.toList = before ++ '#' :: rest) :
    BreaksIn { fault := .loneHash, start := Position.start.after before, length := 1 } source ↔
      ∃ c ∈ rest.head?, c.utf8Size ≠ 1 := by
  have hoffset : (Position.start.after before).offset + 1 = Utf8.length (before ++ ['#']) := by
    rw [Position.offset_after_start, Utf8.length_append]
    rfl
  have hchar : Utf8.charAt? ((Position.start.after before).offset + 1) source.toList =
      rest.head? := by
    rw [hoffset, h, List.append_cons before '#' rest, Utf8.charAt?_length]
  unfold BreaksIn span
  rw [hchar]
  exact ⟨fun hb => hb.2, fun hc => ⟨rfl, hc⟩⟩

namespace Lexer

/-! ## Places between two characters -/

/-- A lexer with text before it stands between two characters. -/
theorem StandsIn.splitAt?_of_text {source : String} {s : Lexer} (h : s.StandsIn source)
    {cs : List Char} (ha : s.ahead = .text cs) :
    ∃ front, Utf8.splitAt? s.position.offset source.toList = some (front, cs) := by
  cases h with
  | @text front cs' finished h =>
    cases ha
    refine ⟨front, ?_⟩
    rw [Position.offset_after_start, h, Utf8.splitAt?_length]
  | inside h hc hb => cases ha

/-- A lexer without stands inside a character. -/
theorem StandsIn.splitAt?_of_brokenCharacter {source : String} {s : Lexer}
    (h : s.StandsIn source) (ha : s.ahead = .brokenCharacter) :
    Utf8.splitAt? s.position.offset source.toList = none := by
  cases h with
  | text h => cases ha
  | inside h hc hb => exact Position.splitAt?_inside h hc _

/-! ## One call -/

/-- A failure at the front of a text can be shown in the script.  There is text
behind it, unless it is a lone hash that breaks a character. -/
theorem fitsIn_takeFront {source : String} (s : Lexer) {before : List Char} {f : Front}
    (h : source.toList = before ++ f.input) (hf : f.Sound) {e : Failure}
    (he : (s.takeFront (Position.start.after before) f).1 = .error e) :
    e.FitsIn source ∧
      (¬ e.BreaksIn source ∧
          (∃ cs, (s.takeFront (Position.start.after before) f).2.ahead = .text cs) ∨
        e.BreaksIn source ∧
          (s.takeFront (Position.start.after before) f).2.ahead = .brokenCharacter ∧
          (s.takeFront (Position.start.after before) f).2.position.offset = e.span.offset + 2) := by
  cases f with
  | nothing => cases he
  | lexeme kind text rest => cases he
  | loneHash rest =>
    cases he
    refine ⟨hf.fitsIn h, ?_⟩
    rw [Failure.breaksIn_loneHash_iff h]
    cases rest with
    | nil =>
      refine Or.inl ⟨?_, _, rfl⟩
      rintro ⟨c, hc, -⟩
      cases hc
    | cons c rest =>
      by_cases hc : c.utf8Size = 1
      · simp only [takeFront, moveByte, if_pos hc]
        refine Or.inl ⟨?_, rest, rfl⟩
        rintro ⟨d, hd, hsize⟩
        cases hd
        exact hsize hc
      · simp only [takeFront, moveByte, if_neg hc, true_and]
        refine Or.inr ⟨⟨c, rfl, hc⟩, ?_⟩
        rw [Position.offset_afterChar]
        rfl
  | _ =>
    cases he
    refine ⟨hf.fitsIn (by rw [h]; simp [Front.input]), Or.inl ⟨?_, _, rfl⟩⟩
    rintro ⟨hfault, -⟩
    cases hfault

/-- Behind a token there is text. -/
theorem exists_ahead_of_token {source : String} {s : Lexer} (h : s.StandsIn source) {t : Token}
    (ht : s.read.1 = .ok t) : ∃ cs, s.read.2.ahead = .text cs := by
  rcases read_cases h with ⟨front, gap, rest, _, _, _, _, hr⟩ | ⟨_, _, hr⟩
  · rw [hr] at ht ⊢
    cases hf : Front.ofText rest with
    | nothing => exact ⟨_, rfl⟩
    | lexeme kind text rest' => exact ⟨_, rfl⟩
    | _ =>
      rw [hf] at ht
      cases ht
  · rw [hr] at ht
    cases ht

/-- A failure that is read in a text can be shown in the script, and there is
text behind it, unless it breaks a character. -/
theorem fitsIn_read {source : String} {s : Lexer} (h : s.StandsIn source) {cs : List Char}
    (ha : s.ahead = .text cs) {e : Failure} (he : s.read.1 = .error e) :
    e.FitsIn source ∧
      (¬ e.BreaksIn source ∧ (∃ cs', s.read.2.ahead = .text cs') ∨
        e.BreaksIn source ∧ s.read.2.ahead = .brokenCharacter ∧
          s.read.2.position.offset = e.span.offset + 2) := by
  rcases read_cases h with ⟨front, gap, rest, hs, _, _, hsplit, hr⟩ | ⟨hbroken, _, _⟩
  · have hsound := Front.sound_splitGap (gap ++ rest)
    rw [hsplit] at hsound
    rw [hr] at he ⊢
    exact fitsIn_takeFront s (by rw [Front.input_ofText, hs]) hsound he
  · rw [ha] at hbroken
    cases hbroken

/-- A call on a text leaves text behind, and its answer can be shown, or it
breaks a character. -/
theorem pull_text_cases {source : String} {s : Lexer} (h : s.StandsIn source) {cs : List Char}
    (ha : s.ahead = .text cs) (pull : Pull) :
    (∀ e, (s.pull pull).1 = some (.error e) → e.FitsIn source ∧ ¬ e.BreaksIn source) ∧
        (∃ cs', (s.pull pull).2.ahead = .text cs') ∨
      ∃ e, (s.pull pull).1 = some (.error e) ∧ e.FitsIn source ∧ e.BreaksIn source ∧
        (s.pull pull).2.ahead = .brokenCharacter ∧
        (s.pull pull).2.position.offset = e.span.offset + 2 := by
  rcases pull_cases s pull with ⟨hread, finished, hnext⟩ | hstay
  · rw [hread, hnext]
    cases houtcome : s.read.1 with
    | ok t =>
      refine Or.inl ⟨?_, exists_ahead_of_token h houtcome⟩
      intro e he
      cases he
    | error e =>
      obtain ⟨hfits, ⟨hwhole, htext⟩ | ⟨hbreaks, hbroken, hoffset⟩⟩ := fitsIn_read h ha houtcome
      · refine Or.inl ⟨?_, htext⟩
        rintro _ ⟨⟩
        exact ⟨hfits, hwhole⟩
      · exact Or.inr ⟨e, rfl, hfits, hbreaks, hbroken, hoffset⟩
  · rw [hstay]
    refine Or.inl ⟨?_, cs, ha⟩
    intro e he
    cases he

/-! ## Whole runs -/

/-- Inside a character a lexer stays where it is and reports the same failure
for ever. -/
theorem pullAll_of_brokenCharacter {s : Lexer} (ha : s.ahead = .brokenCharacter)
    (pulls : List Pull) :
    (∀ answer ∈ (s.pullAll pulls).1,
        answer = none ∨ answer = some (.error (.lostAt s.position))) ∧
      (s.pullAll pulls).2.ahead = .brokenCharacter ∧
      (s.pullAll pulls).2.position = s.position := by
  induction pulls generalizing s with
  | nil =>
    refine ⟨?_, ha, rfl⟩
    intro answer hanswer
    cases hanswer
  | cons pull pulls ih =>
    have hr := read_of_brokenCharacter ha
    dsimp only [pullAll]
    rw [List.forall_mem_cons]
    rcases pull_cases s pull with ⟨hread, finished, hnext⟩ | hstay
    · rw [hr] at hread hnext
      rw [hnext]
      obtain ⟨hlater, hstill⟩ := ih (s := { s with finished }) ha
      exact ⟨⟨Or.inr hread, hlater⟩, hstill⟩
    · rw [hstay]
      obtain ⟨hlater, hstill⟩ := ih ha
      exact ⟨⟨Or.inl rfl, hlater⟩, hstill⟩

end Lexer

/-- The failures among some answers can be shown in the script, and none of
them breaks a character. -/
def Unbroken (source : String) (answers : List (Option Outcome)) : Prop :=
  ∀ e, some (.error e) ∈ answers → e.FitsIn source ∧ ¬ e.BreaksIn source

theorem unbroken_nil (source : String) : Unbroken source [] := by
  intro e he
  cases he

theorem Unbroken.cons {source : String} {answer : Option Outcome}
    {answers : List (Option Outcome)}
    (h : ∀ e, answer = some (.error e) → e.FitsIn source ∧ ¬ e.BreaksIn source)
    (hs : Unbroken source answers) : Unbroken source (answer :: answers) := by
  intro e he
  rcases List.mem_cons.1 he with he | he
  · exact h e he.symm
  · exact hs e he

/-- A run on a text leaves text behind, or there is one failure in it that breaks
a character, and from then on the lexer is lost. -/
theorem Lexer.pullAll_text_cases {source : String} {s : Lexer} (h : s.StandsIn source)
    {cs : List Char} (ha : s.ahead = .text cs) (pulls : List Pull) :
    Unbroken source (s.pullAll pulls).1 ∧ (∃ cs', (s.pullAll pulls).2.ahead = .text cs') ∨
      ∃ before e after, (s.pullAll pulls).1 = before ++ some (.error e) :: after ∧
        Unbroken source before ∧ e.FitsIn source ∧ e.BreaksIn source ∧
        (s.pullAll pulls).2.ahead = .brokenCharacter ∧
        (s.pullAll pulls).2.position.offset = e.span.offset + 2 ∧
        ∀ answer ∈ after,
          answer = none ∨ answer = some (.error (.lostAt (s.pullAll pulls).2.position)) := by
  induction pulls generalizing s cs with
  | nil => exact Or.inl ⟨unbroken_nil source, cs, ha⟩
  | cons pull pulls ih =>
    dsimp only [pullAll]
    rcases pull_text_cases h ha pull with ⟨hanswer, cs', htext⟩ |
      ⟨e, hanswer, hfits, hbreaks, hbroken, hoffset⟩
    · -- no character is broken yet, so the rest of the run starts on a text again
      rcases ih (standsIn_pull h pull) htext with ⟨hwhole, hlast⟩ |
        ⟨before, e, after, hall, hwhole, hlost⟩
      · exact Or.inl ⟨hwhole.cons hanswer, hlast⟩
      · refine Or.inr ⟨_ :: before, e, after, ?_, hwhole.cons hanswer, hlost⟩
        rw [hall]
        rfl
    · -- this call breaks one, and no later call gets away from it
      obtain ⟨hlost, hstill, hposition⟩ := pullAll_of_brokenCharacter hbroken pulls
      rw [hanswer, hposition]
      exact Or.inr ⟨[], e, _, rfl, unbroken_nil source, hfits, hbreaks, hstill, hoffset, hlost⟩

/-! ## The law -/

/-- Every failure of a run can be shown in its script, and the run ends between
two characters, unless a lone hash breaks a character.  Up to that hash all
failures can be shown, too.  From then on the lexer stays inside the character,
and its only answer is that none can be read there. -/
theorem failures_fit_until_a_hash_breaks_a_character (source : String)
    (pulls : List Lexer.Pull) :
    ∃ answers stop, Answers source pulls answers stop ∧
      (Unbroken source answers ∧
          (∃ front rest, Utf8.splitAt? stop.offset source.toList = some (front, rest)) ∨
        ∃ before e after, answers = before ++ some (.error e) :: after ∧
          Unbroken source before ∧ e.FitsIn source ∧ e.BreaksIn source ∧
          Utf8.splitAt? stop.offset source.toList = none ∧ stop.offset = e.span.offset + 2 ∧
          ∀ answer ∈ after, answer = none ∨ answer = some (.error (.lostAt stop))) := by
  have hstart := Lexer.standsIn_ofString source
  have hstands := Lexer.standsIn_pullAll hstart pulls
  refine ⟨_, _, answers_pullAll source pulls, ?_⟩
  rcases Lexer.pullAll_text_cases hstart rfl pulls with ⟨hwhole, cs, htext⟩ |
    ⟨before, e, after, hall, hwhole, hfits, hbreaks, hbroken, hoffset, hlost⟩
  · obtain ⟨front, hcut⟩ := hstands.splitAt?_of_text htext
    exact Or.inl ⟨hwhole, front, cs, hcut⟩
  · have hcut := hstands.splitAt?_of_brokenCharacter hbroken
    exact Or.inr ⟨before, e, after, hall, hwhole, hfits, hbreaks, hcut, hoffset, hlost⟩

/-- It does happen: behind a lone hash in front of a character of two bytes, the
next failure lies beyond the end of the script and names no character of it. -/
theorem a_lone_hash_leaves_a_lexer_inside_a_character :
    ∃ answers stop e, Answers "#é" [.token, .token] answers stop ∧ some (.error e) ∈ answers ∧
      Utf8.splitAt? stop.offset "#é".toList = none ∧ e.span.offset = 2 ∧
      "#é".utf8ByteSize < e.span.stop ∧ e.fault = .unexpectedCharacter Lexer.replacement ∧
      Lexer.replacement ∉ "#é".toList ∧ ¬ e.FitsIn "#é" := by
  let stop : Position := { line := 1, column := 3, offset := 2 }
  have hanswers : Answers "#é" [.token, .token]
      [some (.error { fault := .loneHash, start := .start, length := 1 }),
        some (.error (.lostAt stop))] stop := answers_iff.2 (by decide +kernel)
  have hbeyond : "#é".utf8ByteSize < (Failure.lostAt stop).span.stop := by decide +kernel
  refine ⟨_, stop, .lostAt stop, hanswers, List.mem_cons_of_mem _ List.mem_cons_self,
    by decide +kernel, rfl, hbeyond, rfl, by decide +kernel, ?_⟩
  intro hfits
  exact absurd hfits.inside (Nat.not_le_of_lt hbeyond)

end ImageScript
