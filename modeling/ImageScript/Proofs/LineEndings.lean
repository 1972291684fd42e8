-- A script whose lines end in a carriage return and a line feed against the
-- script whose lines end in a line feed alone.  The return stands at the end of
-- its line, where it is a blank or part of a comment, so no token is another one
-- and no line or column moves.  Only bytes are counted once more for each line.
import ImageScript.Proofs.Calls

namespace ImageScript

/-! ## Returns before line feeds -/

/-- A text with a carriage return put before every line feed. -/
def withReturns (cs : List Char) : List Char :=
  cs.flatMap fun c => if c = '\n' then ['\r', '\n'] else [c]

@[simp] theorem withReturns_nil : withReturns [] = [] := rfl

@[simp] theorem withReturns_lineFeed (cs : List Char) :
    withReturns ('\n' :: cs) = '\r' :: '\n' :: withReturns cs := rfl

theorem withReturns_cons_of_ne {c : Char} (h : c ≠ '\n') (cs : List Char) :
    withReturns (c :: cs) = c :: withReturns cs := by
  simp [withReturns, h]

@[simp] theorem withReturns_append (a b : List Char) :
    withReturns (a ++ b) = withReturns a ++ withReturns b := by
  simp [withReturns]

/-- Inside a line nothing changes. -/
theorem withReturns_of_notMem {cs : List Char} (h : '\n' ∉ cs) : withReturns cs = cs := by
  induction cs with
  | nil => rfl
  | cons c cs ih =>
    rw [List.mem_cons, not_or] at h
    rw [withReturns_cons_of_ne (Ne.symm h.1), ih h.2]

/-- A text begins as it did, or with a carriage return. -/
theorem mem_head?_withReturns {cs : List Char} {c : Char} (h : c ∈ (withReturns cs).head?) :
    c ∈ cs.head? ∨ c = '\r' := by
  cases cs with
  | nil => cases h
  | cons d cs =>
    by_cases hd : d = '\n'
    · subst hd
      cases h
      exact Or.inr rfl
    · rw [withReturns_cons_of_ne hd] at h
      exact Or.inl h

/-! ## Positions -/

theorem Utf8.count_lineFeed_encode (cs : List Char) : (encode cs).count 10 = cs.count '\n' := by
  induction cs with
  | nil => rfl
  | cons c cs ih =>
    rw [encode_cons, List.count_append, ih]
    by_cases hc : c = '\n'
    · subst hc
      rw [List.count_cons_self, Nat.add_comm]
      rfl
    · have hnone : (String.utf8EncodeChar c).count 10 = 0 := by
        apply List.count_eq_zero_of_not_mem
        intro hmem
        exact Position.ne_lineFeed_of_mem_utf8EncodeChar hc hmem rfl
      rw [hnone, List.count_cons_of_ne hc, Nat.zero_add]

namespace Position

/-- The same place of a line, some bytes later in the script. -/
def later (p : Position) (bytes : Nat) : Position :=
  { p with offset := p.offset + bytes }

theorem later_later (p : Position) (a b : Nat) : (p.later a).later b = p.later (a + b) := by
  simp [later, Nat.add_assoc]

theorem afterChar_later (p : Position) (n : Nat) (c : Char) :
    (p.later n).afterChar c = (p.afterChar c).later n := by
  unfold afterChar later
  split <;> simp [Nat.add_right_comm]

theorem after_later (p : Position) (n : Nat) (cs : List Char) :
    (p.later n).after cs = (p.after cs).later n := by
  induction cs generalizing p with
  | nil => rfl
  | cons c cs ih => rw [after_cons, afterChar_later, ih, after_cons]

/-- A line feed starts the next line wherever it stands, so the carriage return
before it leaves no trace but its own byte. -/
theorem after_withReturns (p : Position) (cs : List Char) :
    p.after (withReturns cs) = (p.after cs).later (cs.count '\n') := by
  induction cs generalizing p with
  | nil => rfl
  | cons c cs ih =>
    by_cases hc : c = '\n'
    · subst hc
      have hreturn : (p.afterChar '\r').afterChar '\n' = (p.afterChar '\n').later 1 := rfl
      rw [withReturns_lineFeed, after_cons, after_cons, hreturn, ih, after_later, later_later,
        after_cons, List.count_cons_self, Nat.add_comm]
    · rw [withReturns_cons_of_ne hc, after_cons, after_cons, ih, List.count_cons_of_ne hc]

/-- Where a place of a script is once there are carriage returns: one byte later
for every line feed before it. -/
def withReturns (p : Position) (source : String) : Position :=
  p.later (((Utf8.encode source.toList).take p.offset).count 10)

theorem withReturns_after {source : String} {front rest : List Char}
    (h : source.toList = front ++ rest) :
    (start.after front).withReturns source = start.after (ImageScript.withReturns front) := by
  have hbytes : (Utf8.encode source.toList).take (start.after front).offset =
      Utf8.encode front := by
    rw [h, Utf8.encode_append, offset_after_start, ← Utf8.length_encode, List.take_left]
  unfold withReturns
  rw [hbytes, Utf8.count_lineFeed_encode, after_withReturns]

end Position

/-! ## Answers -/

/-- A token once there are carriage returns. -/
def Token.withReturns (t : Token) (source : String) : Token :=
  { t with start := t.start.withReturns source }

/-- A string that breaks off at the end of its line does so at the carriage
return now. -/
def Fault.withReturns : Fault → Fault
  | .illegalInString '\n' => .illegalInString '\r'
  | fault => fault

/-- A failure once there are carriage returns. -/
def Failure.withReturns (e : Failure) (source : String) : Failure where
  fault := e.fault.withReturns
  start := e.start.withReturns source
  length := e.length

/-- An answer once there are carriage returns. -/
def Outcome.withReturns (outcome : Outcome) (source : String) : Outcome :=
  match outcome with
  | .ok t => .ok (t.withReturns source)
  | .error e => .error (e.withReturns source)

@[simp] theorem Outcome.isLast_withReturns (outcome : Outcome) (source : String) :
    (outcome.withReturns source).isLast = outcome.isLast := by
  cases outcome <;> rfl

/-! ## Gaps, lexemes and faults -/

theorem Gap.withReturns {g : List Char} (h : Gap g) : Gap (ImageScript.withReturns g) := by
  induction h with
  | nil => exact .nil
  | @blank c g hc _ ih =>
    by_cases hn : c = '\n'
    · subst hn
      rw [withReturns_lineFeed]
      exact .blank rfl (.blank rfl ih)
    · rw [withReturns_cons_of_ne hn]
      exact .blank hc ih
  | @comment body g hb _ ih =>
    -- the return becomes the last character of the comment
    have hb' : '\n' ∉ body ++ ['\r'] := by simp [hb]
    have hcomment := Gap.comment hb' ih
    rw [withReturns_cons_of_ne (by decide), withReturns_cons_of_ne (by decide),
      withReturns_append, withReturns_of_notMem hb, withReturns_lineFeed]
    simpa using hcomment

theorem FinalGap.withReturns {g : List Char} (h : FinalGap g) :
    FinalGap (ImageScript.withReturns g) := by
  cases h with
  | closed h => exact .closed h.withReturns
  | @opened g body h hb =>
    rw [withReturns_append, withReturns_cons_of_ne (by decide), withReturns_cons_of_ne (by decide),
      withReturns_of_notMem hb]
    exact .opened h.withReturns hb

/-- A lexeme lies in one line. -/
theorem Lexeme.withReturns_eq {kind : Kind} {text : List Char} (h : Lexeme kind text) :
    withReturns text = text := by
  apply withReturns_of_notMem
  intro hmem
  exact absurd (h.printable hmem).1 (by decide)

/-- No lexeme goes on at the end of its line. -/
theorem not_extends_withReturns {text rest : List Char} (h : ∀ c ∈ rest.head?, ¬ Extends text c) :
    ∀ c ∈ (withReturns rest).head?, ¬ Extends text c := by
  intro c hc
  rcases mem_head?_withReturns hc with hc | rfl
  · exact h c hc
  · exact not_extends_of_gap (Or.inl rfl)

theorem lineFeed_notMem_of_all {p : Char → Bool} (hp : p '\n' = false) {cs : List Char}
    (h : cs.all p = true) : '\n' ∉ cs := by
  intro hmem
  have := List.all_eq_true.1 h _ hmem
  rw [hp] at this
  cases this

theorem lineFeed_notMem_string {body : List Char} (h : body.all isStringChar = true) :
    '\n' ∉ '"' :: body := by
  have hbody := lineFeed_notMem_of_all (by decide) h
  simp [hbody]

/-- What is at fault stays at fault, for the same reason and at the same place
of its line. -/
theorem Faulty.withReturns {before stretch after : List Char} {fault : Fault}
    (h : Faulty before stretch after fault) :
    ∃ stretch' after', Faulty before stretch' after' fault.withReturns ∧
      withReturns (before ++ stretch ++ after) = before ++ stretch' ++ after' ∧
      withReturns before = before ∧ Utf8.length stretch' = Utf8.length stretch := by
  cases h with
  | @unexpectedCharacter c after hc =>
    have hn : c ≠ '\n' := by
      rintro rfl
      exact absurd hc.1 (by decide)
    refine ⟨[c], ImageScript.withReturns after, .unexpectedCharacter hc, ?_, rfl, rfl⟩
    simp [withReturns_cons_of_ne hn]
  | @loneHash after ha =>
    refine ⟨['#'], ImageScript.withReturns after, .loneHash ?_, ?_, rfl, rfl⟩
    · intro hh
      rcases mem_head?_withReturns (Option.mem_def.2 hh) with hh | hh
      · exact ha hh
      · exact absurd hh (by decide)
    · simp [withReturns_cons_of_ne (show '#' ≠ '\n' by decide)]
  | @illegalInString body after c hb hc hq =>
    have hbody := withReturns_of_notMem (lineFeed_notMem_string hb)
    by_cases hn : c = '\n'
    · subst hn
      refine ⟨['\r'], '\n' :: ImageScript.withReturns after, ?_, ?_, hbody, rfl⟩
      · exact .illegalInString hb (by decide) (by decide)
      · rw [withReturns_append, withReturns_append, hbody]
        simp
    · have hfault : (Fault.illegalInString c).withReturns = .illegalInString c := by
        unfold Fault.withReturns
        split
        · next he => exact absurd (Fault.illegalInString.inj he) hn
        · rfl
      refine ⟨[c], ImageScript.withReturns after, ?_, ?_, hbody, rfl⟩
      · rw [hfault]
        exact .illegalInString hb hc hq
      · rw [withReturns_append, withReturns_append, hbody, withReturns_cons_of_ne hn,
          withReturns_nil]
  | @unterminatedString body hb =>
    have hbody := withReturns_of_notMem (lineFeed_notMem_string hb)
    refine ⟨'"' :: body, [], .unterminatedString hb, ?_, rfl, rfl⟩
    simp [hbody]
  | @numberTooLarge d ds after hd hds hstop hv =>
    have hdigits : '\n' ∉ d :: ds :=
      lineFeed_notMem_of_all (by decide) (all_isDigit_of_isLeadingDigit hd hds)
    refine ⟨d :: ds, ImageScript.withReturns after, .numberTooLarge hd hds ?_ hv, ?_, rfl, rfl⟩
    · intro c hc
      rcases mem_head?_withReturns hc with hc | rfl
      · exact hstop c hc
      · decide
    · rw [withReturns_append, List.nil_append, withReturns_of_notMem hdigits]

/-! ## Lexers side by side -/

namespace Lexer

/-- Two lexers stand at the same place, the second one in the script with the
carriage returns. -/
structure Returned (source : String) (s u : Lexer) : Prop where
  finished : u.finished = s.finished
  place : ∃ front cs, source.toList = front ++ cs ∧
    s.position = Position.start.after front ∧ s.ahead = .text cs ∧
    u.position = Position.start.after (withReturns front) ∧ u.ahead = .text (withReturns cs)

/-- They read the same, and behind a token they stand at the same place again. -/
theorem Returned.read {source : String} {s u : Lexer} (h : Returned source s u) :
    u.read.1 = s.read.1.withReturns source ∧
      (s.read.1.isLast = false → Returned source s.read.2 u.read.2) := by
  obtain ⟨hfinished, front, cs, hs, hp, ha, hp', ha'⟩ := h
  have hplace : ∀ {a b : List Char}, cs = a ++ b →
      u.position.after (withReturns a) = (s.position.after a).withReturns source := by
    intro a b hcs
    have hfront : source.toList = (front ++ a) ++ b := by rw [hs, hcs, List.append_assoc]
    rw [hp, hp', ← Position.after_append, ← Position.after_append, ← withReturns_append,
      Position.withReturns_after hfront]
  rcases read_text_cases ha with ⟨hg, hr⟩ | ⟨gap, kind, text, rest, rfl, hg, hl, he, hr⟩ |
    ⟨gap, before, stretch, after, fault, rfl, hg, hfault, hr⟩
  · have hr' := read_of_finalGap hg.withReturns ha'
    rw [hplace (List.append_nil cs).symm] at hr'
    rw [hr, hr']
    refine ⟨rfl, ?_⟩
    intro hlast
    cases hlast
  · rw [withReturns_append, withReturns_append, hl.withReturns_eq] at ha'
    have hr' := read_of_lexeme hg.withReturns hl (not_extends_withReturns he) ha'
    rw [hplace rfl] at hr'
    rw [hr, hr']
    refine ⟨rfl, ?_⟩
    intro _
    refine ⟨hfinished, front ++ (gap ++ text), rest, ?_, ?_, rfl, ?_, rfl⟩
    · rw [hs]
      simp only [List.append_assoc]
    · simp only [moveTo, hp, Position.after_append]
    · simp only [moveTo, hp', withReturns_append, hl.withReturns_eq, Position.after_append]
  · obtain ⟨stretch', after', hfault', htext, hbefore, hsize⟩ := hfault.withReturns
    rw [withReturns_append, htext] at ha'
    have hr' := read_of_faulty hg.withReturns hfault' ha'
    have hpiece : gap ++ (before ++ stretch ++ after) = (gap ++ before) ++ (stretch ++ after) := by
      simp only [List.append_assoc]
    have hstart := hplace hpiece
    rw [withReturns_append, hbefore] at hstart
    rw [hstart, hsize] at hr'
    rw [hr, hr']
    refine ⟨rfl, ?_⟩
    intro hlast
    cases hlast

theorem Returned.rest {source : String} {s u : Lexer} (h : Returned source s u) :
    u.rest.1 = s.rest.1.map (·.withReturns source) := by
  apply rest_eq_map (R := Returned source)
  · intro outcome
    exact outcome.isLast_withReturns source
  · intro s u h
    exact ⟨h.finished, h.read⟩
  · exact h

end Lexer

/-! ## The law -/

/-- With a carriage return before every line feed a script is lexed into the
same tokens, at the same lines and columns, or has the same failure there.  Each
starts one byte later for every line feed before it, and a string that broke off
at a line feed breaks off at the carriage return. -/
theorem line_endings_do_not_matter (source : String) :
    lex (String.ofList (withReturns source.toList)) =
      match lex source with
      | .ok tokens => .ok (tokens.map (·.withReturns source))
      | .error e => .error (e.withReturns source) := by
  have hstart : Lexer.Returned source (.ofString source)
      (.ofString (String.ofList (withReturns source.toList))) := by
    refine ⟨rfl, [], source.toList, rfl, rfl, rfl, rfl, ?_⟩
    unfold Lexer.ofString
    rw [String.toList_ofList]
  unfold lex
  rw [hstart.rest]
  apply collect_map
  · intro t
    rfl
  · intro e
    rfl

/-- A comment and an open string at the ends of two lines. -/
example :
    lex "a ## b\r\n\"c\r\n" =
      .error { fault := .illegalInString '\r',
               start := { line := 2, column := 3, offset := 10 }, length := 1 } := by
  decide +kernel

end ImageScript
