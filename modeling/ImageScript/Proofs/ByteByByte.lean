-- The machine that sees one byte at a time gives every answer that the lexer
-- gives, whatever it is asked.  So it never breaks down: it makes no cut that
-- the script does not allow, and one byte taken back is all it ever needs.
import ImageScript.Proofs.ByteSteps
import ImageScript.Proofs.Spelling
import ImageScript.Proofs.Streams

namespace ImageScript

namespace Machine

variable {source : String} {mark p : Position} {finished : Bool} {previous : Option Position}

/-! ## Runs of characters -/

/-- The machine goes on over the characters of a run. -/
theorem run_takeWhile {P : Char → Bool} {pending : Pending}
    (hon : ∀ c, P c = true → c.utf8Size = 1 ∧ pending.reaction c = .goOn pending)
    {front cs : List Char} (h : source.toList = front ++ cs) (mark : Position)
    (finished : Bool) (previous : Option Position) :
    ∃ previous',
      (standing source mark (Position.start.after front) finished previous).run pending =
        (standing source mark (Position.start.after (front ++ cs.takeWhile P)) finished
          previous').run pending := by
  induction cs generalizing front previous with
  | nil =>
    refine ⟨previous, ?_⟩
    rw [List.takeWhile_nil, List.append_nil]
  | cons c cs ih =>
    by_cases hc : P c = true
    · obtain ⟨hsize, hgo⟩ := hon c hc
      have h' : source.toList = front ++ [c] ++ cs := by rw [h, List.append_cons]
      obtain ⟨previous', ih⟩ := ih h' (some (Position.start.after front))
      refine ⟨previous', ?_⟩
      rw [run_cons_of_ascii h hsize, hgo, List.takeWhile_cons_of_pos hc,
        List.append_cons front c (cs.takeWhile P)]
      exact ih
    · refine ⟨previous, ?_⟩
      rw [List.takeWhile_cons_of_neg hc, List.append_nil]

/-- A word or a number ends with its run: in front of another character, which
is taken back, or where the script ends. -/
theorem run_to_stop {P : Char → Bool} {pending : Pending}
    {answer : Machine → Option (Outcome × Machine)}
    (hon : ∀ c, P c = true → c.utf8Size = 1 ∧ pending.reaction c = .goOn pending)
    (hstop : ∀ c, P c = false → ∀ here next : Machine,
      here.react next (pending.reaction c) = answer next.back)
    (hend : ∀ m : Machine, m.finish pending = answer m)
    {front cs : List Char} (h : source.toList = front ++ cs) (mark : Position)
    (finished : Bool) (previous : Option Position) :
    ∃ previous',
      (standing source mark (Position.start.after front) finished previous).run pending =
        answer (standing source mark (Position.start.after (front ++ cs.takeWhile P)) finished
          previous') := by
  obtain ⟨previous', hrun⟩ := run_takeWhile hon h mark finished previous
  rw [hrun]
  have hsplit : source.toList = front ++ cs.takeWhile P ++ cs.dropWhile P := by
    rw [List.append_assoc, List.takeWhile_append_dropWhile, h]
  cases hd : cs.dropWhile P with
  | nil =>
    rw [hd, List.append_nil] at hsplit
    exact ⟨previous', by rw [run_nil hsplit, hend]⟩
  | cons d ds =>
    have hP : P d = false := mem_head?_dropWhile (by rw [hd]; rfl)
    obtain ⟨b, bs, hb⟩ := Utf8.exists_firstByte d
    rw [hd] at hsplit
    refine ⟨none, ?_⟩
    rw [run_cons hsplit hb, hstop d hP, back_standing]

/-! ## Gaps -/

/-- What the machine has begun to read in a part of a gap. -/
def pendingIn : GapPart → Pending
  | .blanks => .nothing
  | .comment => .comment

/-- In a comment the machine goes on over every byte but a line feed. -/
theorem run_comment_bytes {before bytes behind : List UInt8}
    (h : Utf8.encode source.toList = before ++ bytes ++ behind) (hb : ∀ b ∈ bytes, b ≠ 10)
    (mark : Position) (finished : Bool) (previous : Option Position) :
    ∃ previous',
      (standing source mark (.following before) finished previous).run .comment =
        (standing source mark (.following (before ++ bytes)) finished previous').run
          .comment := by
  induction bytes generalizing before previous with
  | nil =>
    refine ⟨previous, ?_⟩
    rw [List.append_nil]
  | cons b bytes ih =>
    have hbyte :
        (standing source mark (.following before) finished previous).reader.byte? = some b := by
      have hall : Utf8.encode source.toList = before ++ (b :: bytes ++ behind) := by
        rw [h, List.append_assoc]
      rw [byte?_standing hall]
      rfl
    have hb10 : b ≠ 10 := hb b List.mem_cons_self
    have hgo : Pending.comment.reaction (Char.ofUInt8 b) = .goOn .comment := by
      apply if_neg
      intro hn
      apply hb10
      have hval : b.toUInt32.toNat = '\n'.toNat := congrArg Char.toNat hn
      rw [UInt8.toNat_toUInt32] at hval
      exact UInt8.toNat_inj.1 hval
    have h' : Utf8.encode source.toList = before ++ [b] ++ bytes ++ behind := by
      rw [h, List.append_cons before b bytes]
    obtain ⟨previous', ih⟩ := ih h' (fun b' hb' => hb b' (List.mem_cons_of_mem _ hb'))
      (some (.following before))
    refine ⟨previous', ?_⟩
    rw [run_of_some hbyte, hgo, advance_standing hbyte, ← Position.following_concat,
      List.append_cons before b bytes]
    exact ih

/-- In a comment the machine goes on over every character but a line feed. -/
theorem run_comment_char {front cs : List Char} {c : Char} (h : source.toList = front ++ c :: cs)
    (hc : c ≠ '\n') (mark : Position) (finished : Bool) (previous : Option Position) :
    ∃ previous',
      (standing source mark (Position.start.after front) finished previous).run .comment =
        (standing source mark (Position.start.after (front ++ [c])) finished previous').run
          .comment := by
  have h' : Utf8.encode source.toList =
      Utf8.encode front ++ String.utf8EncodeChar c ++ Utf8.encode cs := by
    rw [h, Utf8.encode_append, Utf8.encode_cons, List.append_assoc]
  have hf : Utf8.encode (front ++ [c]) = Utf8.encode front ++ String.utf8EncodeChar c := by
    rw [Utf8.encode_append, Utf8.encode_cons, Utf8.encode_nil, List.append_nil]
  rw [Position.after_start, Position.after_start, hf]
  have hb : ∀ b ∈ String.utf8EncodeChar c, b ≠ 10 := by
    intro b hb
    exact Position.ne_lineFeed_of_mem_utf8EncodeChar hc hb
  exact run_comment_bytes h' hb mark finished previous

/-- Behind a gap the machine stands as if it had begun there. -/
theorem run_splitGap (part : GapPart) {front cs : List Char} (h : source.toList = front ++ cs)
    (mark : Position) (hmark : part = .blanks → mark = Position.start.after front)
    (finished : Bool) (previous : Option Position) :
    ∃ previous',
      (standing source mark (Position.start.after front) finished previous).run
          (pendingIn part) =
        (standing source (Position.start.after (front ++ (splitGap part cs).1))
          (Position.start.after (front ++ (splitGap part cs).1)) finished previous').run
          .nothing := by
  fun_induction splitGap part cs generalizing front mark previous with
  | case1 part =>
    rw [List.append_nil] at h ⊢
    refine ⟨previous, ?_⟩
    cases part with
    | blanks => rw [hmark rfl]; rfl
    | comment => rw [run_nil h, run_nil h]; rfl
  | case2 c cs gap rest hs ih =>
    rw [hs] at ih
    have h' : source.toList = front ++ [c] ++ cs := by rw [h, List.append_cons]
    by_cases hc : c = '\n'
    · subst hc
      obtain ⟨previous', ih⟩ := ih h' (Position.start.after (front ++ ['\n'])) (fun _ => rfl)
        (some (Position.start.after front))
      refine ⟨previous', ?_⟩
      rw [List.append_cons front '\n' gap, ← ih]
      exact run_cons_of_ascii h rfl _
    · rw [if_neg hc] at ih
      obtain ⟨previous₁, hrun⟩ := run_comment_char h hc mark finished previous
      obtain ⟨previous', ih⟩ := ih h' mark GapPart.noConfusion previous₁
      refine ⟨previous', ?_⟩
      rw [List.append_cons front c gap, ← ih]
      exact hrun
  | case3 cs gap rest hs ih =>
    rw [hs] at ih
    have h' : source.toList = front ++ ['#'] ++ '#' :: cs := by rw [h, List.append_cons]
    have h'' : source.toList = front ++ ['#'] ++ ['#'] ++ cs := by rw [h', List.append_cons]
    obtain ⟨previous', ih⟩ := ih h'' mark GapPart.noConfusion
      (some (Position.start.after (front ++ ['#'])))
    refine ⟨previous', ?_⟩
    rw [List.append_cons front '#' ('#' :: gap), List.append_cons (front ++ ['#']) '#' gap, ← ih]
    calc _ = (standing source mark (Position.start.after (front ++ ['#'])) finished
                (some (Position.start.after front))).run .hash := run_cons_of_ascii h rfl _
      _ = _ := run_cons_of_ascii h' rfl _
  | case4 c cs _ hc gap rest hs ih =>
    rw [hs] at ih
    have h' : source.toList = front ++ [c] ++ cs := by rw [h, List.append_cons]
    have hsize : c.utf8Size = 1 := by
      have := toNat_of_isBlank hc
      rw [utf8Size_eq_one_iff]
      omega
    have hskip : Pending.nothing.reaction c = .skip := if_pos hc
    obtain ⟨previous', ih⟩ := ih h' (Position.start.after (front ++ [c])) (fun _ => rfl)
      (some (Position.start.after front))
    refine ⟨previous', ?_⟩
    rw [List.append_cons front c gap, ← ih]
    show (standing source mark _ finished previous).run .nothing = _
    rw [run_cons_of_ascii h hsize, hskip]
    rfl
  | case5 c cs _ hc =>
    refine ⟨previous, ?_⟩
    rw [List.append_nil, hmark rfl]
    rfl

/-! ## Answers -/

/-- The machine is where the lexer is, in the same stream.  Its mark and the
step that it could take back mean nothing between two calls. -/
def Follows (source : String) (m : Machine) (s : Lexer) : Prop :=
  ∃ mark previous, m = standing source mark s.position s.finished previous

/-- The machine gives the answer of the lexer, and goes where the lexer goes. -/
def Gives (source : String) (result : Option (Outcome × Machine)) (step : Outcome × Lexer) :
    Prop :=
  ∃ m, result = some (step.1, m) ∧ Follows source m step.2

theorem emit_standing {front text rest : List Char} (h : source.toList = front ++ text ++ rest)
    (kind : Kind) (finished : Bool) (previous : Option Position) :
    (standing source (Position.start.after front) (Position.start.after (front ++ text)) finished
      previous).emit kind =
      some (.ok { kind, start := Position.start.after front, text := String.ofList text },
        standing source (Position.start.after front) (Position.start.after (front ++ text))
          finished previous) := by
  unfold emit
  rw [cut?_standing h]
  rfl

/-- The token that a machine emits is the lexeme that a lexer finds. -/
theorem gives_emit (s : Lexer) {front text rest : List Char}
    (h : source.toList = front ++ text ++ rest) (kind : Kind) :
    Gives source
      ((standing source (Position.start.after front) (Position.start.after (front ++ text))
        s.finished previous).emit kind)
      (s.takeFront (Position.start.after front) (.lexeme kind text rest)) := by
  refine ⟨_, emit_standing h kind s.finished previous, Position.start.after front, previous, ?_⟩
  rw [Position.after_append]
  rfl

theorem gives_emitWord (s : Lexer) {front text rest : List Char}
    (h : source.toList = front ++ text ++ rest) :
    Gives source
      ((standing source (Position.start.after front) (Position.start.after (front ++ text))
        s.finished previous).emitWord)
      (s.takeFront (Position.start.after front)
        (.lexeme (Word.kindOf (String.ofList text)) text rest)) := by
  unfold emitWord
  rw [cut?_standing h]
  exact gives_emit s h (Word.kindOf (String.ofList text))

/-- A number is cut out first and judged then. -/
theorem gives_emitNumber (s : Lexer) {front digits rest : List Char}
    (h : source.toList = front ++ digits ++ rest) (hne : digits ≠ [])
    (hd : digits.all Char.isDigit = true) :
    Gives source
      ((standing source (Position.start.after front) (Position.start.after (front ++ digits))
        s.finished previous).emitNumber)
      (s.takeFront (Position.start.after front)
        (if Decimal.value digits ≤ Decimal.maxInt then .lexeme (.literal .number) digits rest
          else .tooLarge digits rest)) := by
  have hrange := Decimal.isSome_integer?_of_digits hne hd
  unfold emitNumber
  rw [cut?_standing h]
  dsimp only [bind, Option.bind]
  rw [String.toList_ofList]
  by_cases hv : Decimal.value digits ≤ Decimal.maxInt
  · rw [if_pos hv, if_pos (hrange.2 hv)]
    refine ⟨_, rfl, Position.start.after front, previous, ?_⟩
    rw [Position.after_append]
    rfl
  · rw [if_neg hv, if_neg (fun hs => hv (hrange.1 hs))]
    have hlen : (String.ofList digits).utf8ByteSize = Utf8.length digits := by
      rw [Utf8.utf8ByteSize_eq_length, String.toList_ofList]
    refine ⟨standing source (Position.start.after front) (Position.start.after (front ++ digits))
      s.finished previous, ?_, Position.start.after front, previous, ?_⟩
    · dsimp only [Token.length, Lexer.takeFront]
      rw [hlen]
      rfl
    · rw [Position.after_append]
      rfl

/-- A character that is not taken is what a failure names, and the machine
stays in front of it. -/
theorem reject_standing {front cs : List Char} {c : Char} (h : source.toList = front ++ c :: cs)
    (fault : Char → Fault) :
    (standing source mark p finished (some (Position.start.after front))).reject
        (Position.start.after front).toLocation fault =
      some (.error { fault := fault c, start := Position.start.after front,
                     length := c.utf8Size },
        standing source mark (Position.start.after front) finished none) := by
  have hc : (standing source mark (Position.start.after front) finished none).reader.char? =
      some c := char?_standing_cons h
  unfold reject
  dsimp only
  rw [back_standing, hc]
  rfl

theorem gives_reject (s : Lexer) {front cs : List Char} {c : Char}
    (h : source.toList = front ++ c :: cs) (fault : Char → Fault) :
    Gives source
      ((standing source mark p s.finished (some (Position.start.after front))).reject
        (Position.start.after front).toLocation fault)
      (.error { fault := fault c, start := Position.start.after front, length := c.utf8Size },
        s.moveTo (Position.start.after front) (c :: cs)) :=
  ⟨_, reject_standing h fault, mark, none, rfl⟩

/-! ## What stands behind a gap -/

theorem run_word (s : Lexer) {front cs : List Char} (h : source.toList = front ++ cs) :
    Gives source
      ((standing source (Position.start.after front) (Position.start.after front) s.finished
        previous).run .word)
      (s.takeFront (Position.start.after front) (Front.ofWord cs)) := by
  have hon : ∀ d, Word.isPart d = true →
      d.utf8Size = 1 ∧ Pending.word.reaction d = .goOn .word := by
    intro d hd
    have := toNat_of_isPart hd
    exact ⟨utf8Size_eq_one_iff.2 (by omega), if_pos hd⟩
  have hstop : ∀ d, Word.isPart d = false → ∀ here next : Machine,
      here.react next (Pending.word.reaction d) = next.back.emitWord := by
    intro d hd here next
    have hr : Pending.word.reaction d = .wordBefore := if_neg (by rw [hd]; exact Bool.noConfusion)
    rw [hr]
    rfl
  obtain ⟨previous', hrun⟩ := run_to_stop hon hstop (fun _ => rfl) h
    (Position.start.after front) s.finished previous
  rw [hrun]
  apply gives_emitWord
  rw [List.append_assoc, List.takeWhile_append_dropWhile, h]

theorem run_number (s : Lexer) {front cs : List Char} {c : Char}
    (h : source.toList = front ++ c :: cs) (hc : c.isDigit = true) :
    Gives source
      ((standing source (Position.start.after front) (Position.start.after front) s.finished
        previous).run .number)
      (s.takeFront (Position.start.after front) (Front.ofNumber (c :: cs))) := by
  have hon : ∀ d : Char, d.isDigit = true →
      d.utf8Size = 1 ∧ Pending.number.reaction d = .goOn .number := by
    intro d hd
    have := toNat_of_isDigit hd
    exact ⟨utf8Size_eq_one_iff.2 (by omega), if_pos hd⟩
  have hstop : ∀ d : Char, d.isDigit = false → ∀ here next : Machine,
      here.react next (Pending.number.reaction d) = next.back.emitNumber := by
    intro d hd here next
    have hr : Pending.number.reaction d = .numberBefore :=
      if_neg (by rw [hd]; exact Bool.noConfusion)
    rw [hr]
    rfl
  obtain ⟨previous', hrun⟩ := run_to_stop hon hstop (fun _ => rfl) h
    (Position.start.after front) s.finished previous
  rw [hrun]
  apply gives_emitNumber
  · rw [List.append_assoc, List.takeWhile_append_dropWhile, h]
  · rw [List.takeWhile_cons_of_pos hc]
    exact List.cons_ne_nil _ _
  · exact List.all_takeWhile

theorem run_string (s : Lexer) {front cs : List Char} (h : source.toList = front ++ '"' :: cs) :
    Gives source
      ((standing source (Position.start.after front) (Position.start.after (front ++ ['"']))
        s.finished previous).run .string)
      (s.takeFront (Position.start.after front) (Front.ofString cs)) := by
  have hon : ∀ d, isStringChar d = true →
      d.utf8Size = 1 ∧ Pending.string.reaction d = .goOn .string := by
    intro d hd
    unfold isStringChar at hd
    simp only [Bool.and_eq_true, decide_eq_true_eq] at hd
    have := toNat_of_printable.1 hd.1
    refine ⟨utf8Size_eq_one_iff.2 (by omega), ?_⟩
    simp only [Pending.reaction, if_neg hd.2, hd.1, decide_true, Bool.and_self, if_true]
  have h' : source.toList = front ++ ['"'] ++ cs := by rw [h, List.append_cons]
  obtain ⟨previous', hrun⟩ := run_takeWhile hon h' (Position.start.after front) s.finished
    previous
  rw [hrun]
  have hsplit : source.toList =
      front ++ ['"'] ++ cs.takeWhile isStringChar ++ cs.dropWhile isStringChar := by
    rw [List.append_assoc _ (cs.takeWhile _), List.takeWhile_append_dropWhile, h']
  have hp : Position.start.after (front ++ ['"'] ++ cs.takeWhile isStringChar) =
      (Position.start.after front).after ('"' :: cs.takeWhile isStringChar) := by
    rw [← Position.after_append, List.append_cons front '"' (cs.takeWhile isStringChar)]
  unfold Front.ofString
  cases hd : cs.dropWhile isStringChar with
  | nil =>
    rw [hd, List.append_nil] at hsplit
    rw [run_nil hsplit]
    have hlen : ((Position.start.after front).after ('"' :: cs.takeWhile isStringChar)).offset -
        (Position.start.after front).offset =
          Utf8.length ('"' :: cs.takeWhile isStringChar) := by
      rw [Position.offset_after _ ('"' :: cs.takeWhile isStringChar), Nat.add_sub_cancel_left]
    rw [hp]
    refine ⟨_, ?_, Position.start.after front, previous', rfl⟩
    dsimp only [Lexer.takeFront]
    rw [← hlen]
    rfl
  | cons d ds =>
    rw [hd] at hsplit
    have hstop : isStringChar d = false := mem_head?_dropWhile (by rw [hd]; rfl)
    dsimp only
    by_cases hq : d = '"'
    · rw [if_pos hq]
      subst hq
      have hall : source.toList =
          front ++ ('"' :: cs.takeWhile isStringChar ++ ['"']) ++ ds := by
        rw [hsplit]
        simp only [List.append_assoc, List.cons_append, List.nil_append]
      have hlast : front ++ ['"'] ++ cs.takeWhile isStringChar ++ ['"'] =
          front ++ ('"' :: cs.takeWhile isStringChar ++ ['"']) := by
        simp only [List.append_assoc, List.cons_append, List.nil_append]
      rw [run_cons_of_ascii hsplit rfl, hlast]
      exact gives_emit s hall (.literal .string)
    · rw [if_neg hq]
      obtain ⟨b, bs, hb⟩ := Utf8.exists_firstByte d
      have hr : Pending.string.reaction d = .illegalInString := by
        have hrange : (' ' ≤ d && d ≤ '~') = false := by
          unfold isStringChar at hstop
          rw [decide_eq_true hq, Bool.and_true] at hstop
          exact hstop
        simp only [Pending.reaction, if_neg hq, hrange, Bool.false_eq_true, if_false]
      rw [run_cons hsplit hb, hr]
      dsimp only [Lexer.takeFront]
      rw [← hp]
      exact gives_reject s hsplit .illegalInString

/-- A lone hash takes one more byte with it, whatever character that byte is
of. -/
theorem run_hash (s : Lexer) {front cs : List Char} (h : source.toList = front ++ '#' :: cs)
    (hh : cs.head? ≠ some '#') :
    Gives source
      ((standing source (Position.start.after front) (Position.start.after (front ++ ['#']))
        s.finished previous).run .hash)
      (s.takeFront (Position.start.after front) (.loneHash cs)) := by
  have h' : source.toList = front ++ ['#'] ++ cs := by rw [h, List.append_cons]
  have hp : (Position.start.after front).afterChar '#' =
      Position.start.after (front ++ ['#']) := by
    rw [Position.after_append, Position.after_cons, Position.after_nil]
  dsimp only [Lexer.takeFront]
  rw [hp]
  cases cs with
  | nil =>
    rw [List.append_nil] at h'
    rw [run_nil h']
    exact ⟨_, rfl, Position.start.after front, previous, rfl⟩
  | cons d ds =>
    have hd : d ≠ '#' := fun hd => hh (congrArg some hd)
    have hr : Pending.hash.reaction d = .loneHash := if_neg hd
    obtain ⟨b, bs, hb⟩ := Utf8.exists_firstByte d
    rw [run_cons h' hb, hr]
    refine ⟨_, rfl, Position.start.after front,
      some (Position.start.after (front ++ ['#'])), ?_⟩
    by_cases hc : d.utf8Size = 1
    · rw [Position.afterByte_of_ascii hc hb]
      simp only [Lexer.moveByte, if_pos hc]
      rfl
    · rw [Position.afterByte_of_long hc hb]
      simp only [Lexer.moveByte, if_neg hc]

/-- Behind the first character of an operator the next one decides. -/
theorem run_operator (s : Lexer) {o : Operator} {c : Char} (ho : Operator.ofSpelling? [c] = some o)
    {front cs : List Char} (h : source.toList = front ++ c :: cs) :
    Gives source
      ((standing source (Position.start.after front) (Position.start.after (front ++ [c]))
        s.finished previous).run (.operator o))
      (s.takeFront (Position.start.after front) (Front.ofOperator c cs)) := by
  have hc : o.spelling = [c] := Operator.ofSpelling?_eq_some_iff.1 ho
  have h' : source.toList = front ++ [c] ++ cs := by rw [h, List.append_cons]
  cases cs with
  | nil =>
    have hend : source.toList = front ++ [c] := by rw [h', List.append_nil]
    rw [run_nil hend, Front.ofOperator_of_short ho (fun d hd => by cases hd)]
    exact gives_emit s h' (.operator o)
  | cons d ds =>
    have hl : o.continuations.lookup d = Operator.ofSpelling? [c, d] := by
      rw [Operator.lookup_continuations, hc]
      rfl
    cases hlong : Operator.ofSpelling? [c, d] with
    | none =>
      have hshort : ∀ e ∈ (d :: ds).head?, Operator.ofSpelling? [c, e] = none := by
        intro e he
        cases he
        exact hlong
      have hr : (Pending.operator o).reaction d = .operatorBefore o := by
        simp only [Pending.reaction, hl, hlong]
      obtain ⟨b, bs, hb⟩ := Utf8.exists_firstByte d
      rw [run_cons h' hb, hr, Front.ofOperator_of_short ho hshort]
      exact gives_emit s h' (.operator o)
    | some longer =>
      have hd : d ∈ longer.spelling := by
        rw [Operator.ofSpelling?_eq_some_iff.1 hlong]
        exact List.mem_cons_of_mem c List.mem_cons_self
      have hr : (Pending.operator o).reaction d = .complete (.operator longer) := by
        simp only [Pending.reaction, hl, hlong]
      have h'' : source.toList = front ++ [c, d] ++ ds := by
        rw [h', List.append_assoc, List.append_assoc]
        rfl
      have hf : front ++ [c] ++ [d] = front ++ [c, d] := by rw [List.append_assoc]; rfl
      have hfront : Front.ofOperator c (d :: ds) = .lexeme (.operator longer) [c, d] ds := by
        simp only [Front.ofOperator, hlong]
      rw [run_cons_of_ascii h' (Operator.utf8Size_of_mem_spelling hd), hr, hf, hfront]
      exact gives_emit s h'' (.operator longer)

/-- A character that begins an operator or nothing at all. -/
theorem run_mark (s : Lexer) {front cs : List Char} {c : Char} (h : source.toList = front ++ c :: cs)
    (hnone : Operator.ofSpelling? [c] = none → Pending.nothing.reaction c = .unexpected)
    (hsome : ∀ o, Operator.ofSpelling? [c] = some o → Pending.nothing.reaction c =
      if o.continuations.isEmpty then .complete (.operator o) else .goOn (.operator o)) :
    Gives source
      ((standing source (Position.start.after front) (Position.start.after front) s.finished
        previous).run .nothing)
      (s.takeFront (Position.start.after front) (Front.ofOperator c cs)) := by
  cases ho : Operator.ofSpelling? [c] with
  | none =>
    obtain ⟨b, bs, hb⟩ := Utf8.exists_firstByte c
    rw [run_cons h hb, hnone ho, Front.ofOperator_of_none ho]
    exact gives_reject s h .unexpectedCharacter
  | some o =>
    have hc : o.spelling = [c] := Operator.ofSpelling?_eq_some_iff.1 ho
    have hsize : c.utf8Size = 1 := by
      apply Operator.utf8Size_of_mem_spelling (o := o)
      rw [hc]
      exact List.mem_cons_self
    rw [run_cons_of_ascii h hsize, hsome o ho]
    by_cases he : o.continuations.isEmpty = true
    · have hshort : ∀ d ∈ cs.head?, Operator.ofSpelling? [c, d] = none := by
        intro d _
        have hl := Operator.lookup_continuations o d
        rw [List.isEmpty_iff.1 he, hc] at hl
        exact hl.symm
      have h' : source.toList = front ++ [c] ++ cs := by rw [h, List.append_cons]
      rw [if_pos he, Front.ofOperator_of_short ho hshort]
      exact gives_emit s h' (.operator o)
    · rw [if_neg he]
      exact run_operator s ho h

/-- The machine finds at the front of a text what the reader of lexemes finds. -/
theorem run_front (s : Lexer) {front rest : List Char} (h : source.toList = front ++ rest)
    (hblank : ∀ c ∈ rest.head?, isBlank c = false)
    (hcomment : ∀ cs, rest = '#' :: cs → cs.head? ≠ some '#') :
    Gives source
      ((standing source (Position.start.after front) (Position.start.after front) s.finished
        previous).run .nothing)
      (s.takeFront (Position.start.after front) (Front.ofText rest)) := by
  cases rest with
  | nil =>
    rw [List.append_nil] at h
    have h' : source.toList = front ++ [] ++ [] := by rw [h, List.append_nil, List.append_nil]
    have hemit := emit_standing h' .endOfInput s.finished previous
    rw [List.append_nil] at hemit
    rw [run_nil h]
    exact ⟨_, hemit, Position.start.after front, previous, rfl⟩
  | cons c cs =>
    have hb : isBlank c = false := hblank c rfl
    unfold Front.ofText
    dsimp only
    by_cases hh : c = '#'
    · subst hh
      rw [if_pos rfl, run_cons_of_ascii h rfl]
      exact run_hash s h (hcomment cs rfl)
    · by_cases hq : c = '"'
      · subst hq
        rw [if_neg hh, if_pos rfl, run_cons_of_ascii h rfl]
        exact run_string s h
      · by_cases h0 : c = '0'
        · subst h0
          have h' : source.toList = front ++ ['0'] ++ cs := by rw [h, List.append_cons]
          rw [if_neg hh, if_neg hq, if_pos rfl, run_cons_of_ascii h rfl]
          exact gives_emit s h' (.literal .number)
        · by_cases hd : c.isDigit = true
          · have hr : Pending.nothing.reaction c = Pending.number.reaction c := by
              simp only [Pending.reaction, hb, if_neg hh, if_neg hq, if_neg h0, if_pos hd,
                Bool.false_eq_true, if_false]
            rw [if_neg hh, if_neg hq, if_neg h0, if_pos hd, run_congr h hr]
            exact run_number s h hd
          · by_cases hs : Word.isStart c = true
            · have hp := Word.isPart_of_isStart hs
              have hr : Pending.nothing.reaction c = Pending.word.reaction c := by
                simp only [Pending.reaction, hb, if_neg hh, if_neg hq, if_neg h0, if_neg hd,
                  if_pos hs, if_pos hp, Bool.false_eq_true, if_false]
              rw [if_neg hh, if_neg hq, if_neg h0, if_neg hd, if_pos hs, run_congr h hr]
              exact run_word s h
            · rw [if_neg hh, if_neg hq, if_neg h0, if_neg hd, if_neg hs]
              apply run_mark s h
              · intro ho
                simp only [Pending.reaction, hb, if_neg hh, if_neg hq, if_neg h0, if_neg hd,
                  if_neg hs, Bool.false_eq_true, if_false, ho]
              · intro o ho
                simp only [Pending.reaction, hb, if_neg hh, if_neg hq, if_neg h0, if_neg hd,
                  if_neg hs, Bool.false_eq_true, if_false, ho]

/-! ## Calls -/

/-- Inside a character the machine sees a byte that it does not expect, and
cannot tell which character it is of. -/
theorem run_inside {front rest : List Char} {c : Char} {b : UInt8} {bs : List UInt8}
    (h : source.toList = front ++ c :: rest) (hc : c.utf8Size ≠ 1)
    (hb : String.utf8EncodeChar c = b :: bs)
    (hp : p = Position.following (Utf8.encode front ++ [b])) :
    (standing source mark p finished previous).run .nothing =
      some (.error { fault := .unexpectedCharacter Lexer.replacement, start := p,
                     length := Lexer.replacement.utf8Size },
        standing source mark p finished none) := by
  obtain ⟨b', hmem, hbyte⟩ : ∃ b' ∈ String.utf8EncodeChar c,
      (standing source mark p finished previous).reader.byte? = some b' := by
    rw [hp]
    exact byte?_inside h hc hb
  have hchar : (standing source mark p finished none).reader.char? = none := by
    rw [hp]
    exact char?_inside b h hc
  have hreact := Pending.reaction_of_foreign (foreign_ofUInt8 hc hmem) .nothing
  rw [run_of_some hbyte, advance_standing hbyte, hreact]
  show reject _ _ _ = _
  unfold reject
  dsimp only
  rw [back_standing, hchar]
  rfl

theorem gives_read {m : Machine} {s : Lexer} (hs : s.StandsIn source) (hm : Follows source m s) :
    Gives source m.read s.read := by
  obtain ⟨mark, previous, rfl⟩ := hm
  cases hs with
  | @text front cs finished h =>
    obtain ⟨previous', hgap⟩ := run_splitGap .blanks h (Position.start.after front)
      (fun _ => rfl) finished previous
    have hrest : source.toList =
        front ++ (splitGap .blanks cs).1 ++ (splitGap .blanks cs).2 := by
      rw [List.append_assoc, splitGap_append, h]
    obtain ⟨hblank, hcomment⟩ := head_splitGap .blanks cs
    have hread : (standing source mark (Position.start.after front) finished previous).read =
        (standing source (Position.start.after front) (Position.start.after front) finished
          previous).run (pendingIn .blanks) := rfl
    rw [hread, hgap, Lexer.read_of_text rfl]
    dsimp only
    rw [← Position.after_append]
    exact run_front { position := Position.start.after front, ahead := .text cs, finished }
      hrest hblank hcomment
  | @inside front rest c b bs finished h hc hb =>
    rw [Lexer.read_of_brokenCharacter rfl]
    exact ⟨_, run_inside h hc hb rfl, _, none, rfl⟩

theorem follows_pull {m : Machine} {s : Lexer} (hs : s.StandsIn source) (hm : Follows source m s)
    (pull : Lexer.Pull) :
    ∃ m', m.pull pull = some ((s.pull pull).1, m') ∧ Follows source m' (s.pull pull).2 := by
  obtain ⟨m', hread, hfollows⟩ := gives_read hs hm
  cases pull with
  | token =>
    refine ⟨m', ?_, hfollows⟩
    show m.read.map _ = _
    rw [hread]
    rfl
  | item =>
    have hfinished : m.finished = s.finished := by
      obtain ⟨mark, previous, rfl⟩ := hm
      rfl
    show ∃ m', m.next? = some (s.next?.1, m') ∧ Follows source m' s.next?.2
    unfold next? Lexer.next?
    rw [hfinished]
    split
    · exact ⟨m, rfl, hm⟩
    · obtain ⟨mark, previous, rfl⟩ := hfollows
      rw [hread]
      exact ⟨_, rfl, mark, previous, rfl⟩

/-! ## Whole runs -/

/-- Whatever it is asked, the machine gives the answers of the lexer. -/
theorem follows_pullAll {m : Machine} {s : Lexer} (hs : s.StandsIn source)
    (hm : Follows source m s) (pulls : List Lexer.Pull) :
    ∃ last, m.pullAll pulls = some ((s.pullAll pulls).1, last) ∧
      Follows source last (s.pullAll pulls).2 := by
  induction pulls generalizing m s with
  | nil => exact ⟨m, rfl, hm⟩
  | cons pull pulls ih =>
    obtain ⟨m', hpull, hfollows⟩ := follows_pull hs hm pull
    obtain ⟨last, hall, hlast⟩ := ih (Lexer.standsIn_pull hs pull) hfollows
    refine ⟨last, ?_, hlast⟩
    unfold pullAll
    rw [hpull]
    dsimp only [bind, Option.bind]
    rw [hall]
    rfl

theorem follows_ofString (source : String) :
    Follows source (ofString source) (Lexer.ofString source) :=
  ⟨Position.start, none, rfl⟩

/-- From the start of a script the machine never breaks down. -/
theorem pullAll_ofString (source : String) (pulls : List Lexer.Pull) :
    ∃ last, (ofString source).pullAll pulls =
      some (((Lexer.ofString source).pullAll pulls).1, last) := by
  obtain ⟨last, hall, -⟩ :=
    follows_pullAll (Lexer.standsIn_ofString source) (follows_ofString source) pulls
  exact ⟨last, hall⟩

/-- The stream of the machine is that of the lexer, which `lex` collects. -/
theorem pullAll_items_ofString (source : String) (n : Nat) :
    ∃ last, (ofString source).pullAll
        (List.replicate ((Lexer.ofString source).rest.1.length + n) .item) =
      some ((Lexer.ofString source).rest.1.map some ++ List.replicate n none, last) := by
  rw [← Lexer.pullAll_items]
  exact pullAll_ofString source _

end Machine

end ImageScript
