-- A script of lines against its lines.  Read on its own, a line gives the
-- tokens that it gives inside the script, and fails where the script fails:
-- what is pending at the end of a line comes to the same as what is pending at
-- a line feed.  Only a string that is still open there fails in another way.
import ImageScript.Proofs.Calls
import ImageScript.Proofs.Moves
import Mathlib.Algebra.GroupWithZero.Nat

namespace ImageScript

/-! ## Scripts of lines -/

/-- A script of some lines, each ended by a line feed. -/
def ofLines (lines : List String) : String :=
  String.join (lines.map (· ++ "\n"))

/-- The number of bytes that some lines take with their line feeds. -/
def sizeOfLines (lines : List String) : Nat :=
  (lines.map fun line => line.utf8ByteSize + 1).sum

/-- A position of a line that has the lines `above` before it in a script. -/
def Position.below (q : Position) (above : List String) : Position where
  line := q.line + above.length
  column := q.column
  offset := q.offset + sizeOfLines above

/-- A token of a line that has the lines `above` before it. -/
def Token.below (t : Token) (above : List String) : Token :=
  { t with start := t.start.below above }

/-- A failure of a line that has the lines `above` before it. -/
def Failure.below (e : Failure) (above : List String) : Failure :=
  { e with start := e.start.below above }

/-- Where a line ends. -/
def lineEnd (line : String) : Position where
  line := 1
  column := 1 + line.utf8ByteSize
  offset := line.utf8ByteSize

/-- The failure of a line that ends at `stop`, once a line feed stands there: a
string that was open cannot hold the line feed. -/
def Failure.beforeLineFeed (e : Failure) (stop : Position) : Failure :=
  match e.fault with
  | .unterminatedString => { fault := .illegalInString '\n', start := stop, length := 1 }
  | _ => e

theorem toList_ofLines_cons (line : String) (lines : List String) :
    (ofLines (line :: lines)).toList = line.toList ++ '\n' :: (ofLines lines).toList := by
  simp [ofLines, String.join_cons]

/-! ## Positions of lines -/

namespace Position

theorem after_of_notMem {cs : List Char} (h : '\n' ∉ cs) (p : Position) :
    p.after cs = { line := p.line, column := p.column + Utf8.length cs,
                   offset := p.offset + Utf8.length cs } := by
  induction cs generalizing p with
  | nil => rfl
  | cons c cs ih =>
    rw [List.mem_cons, not_or] at h
    rw [after_cons, ih h.2, afterChar, if_neg (Ne.symm h.1)]
    simp only [Utf8.length_cons, Nat.add_assoc]

theorem start_after_of_notMem {line : String} (h : '\n' ∉ line.toList) :
    start.after line.toList = lineEnd line := by
  rw [after_of_notMem h, ← Utf8.utf8ByteSize_eq_length]
  simp [start, lineEnd]

/-- Behind the lines `above` the next line starts. -/
theorem behind_start_below (q : Position) (above : List String) :
    q.behind (start.below above) = q.below above := by
  have hline : (start.below above).line + q.line - 1 = q.line + above.length := by
    simp only [below, start]
    omega
  have hcolumn : (if q.line = 1 then (start.below above).column + q.column - 1 else q.column) =
      q.column := by
    simp only [below, start]
    split <;> omega
  have hoffset : (start.below above).offset + q.offset = q.offset + sizeOfLines above := by
    simp only [below, start]
    omega
  simp only [behind, hline, hcolumn, hoffset]
  rfl

theorem start_below_after {line : String} (h : '\n' ∉ line.toList) (above : List String) :
    (start.below above).after (line.toList ++ ['\n']) = start.below (above ++ [line]) := by
  rw [after_append, after_of_notMem h, ← Utf8.utf8ByteSize_eq_length]
  simp [afterChar, below, start, sizeOfLines, Nat.add_assoc]

end Position

/-! ## A line feed behind a text -/

/-- A last gap is a gap like any other once a line feed follows. -/
theorem FinalGap.gap_append_lineFeed {g : List Char} (h : FinalGap g) : Gap (g ++ ['\n']) := by
  cases h with
  | closed h => exact h.append (.blank rfl .nil)
  | @opened g body h hb =>
    rw [List.append_assoc]
    exact h.append (.comment hb .nil)

theorem Failure.beforeLineFeed_of_ne {e : Failure} (h : e.fault ≠ .unterminatedString)
    (stop : Position) : e.beforeLineFeed stop = e := by
  unfold beforeLineFeed
  split
  · next he => exact absurd he h
  · rfl

/-- A fault stays what it is when a line feed follows, unless it is a string
that is still open. -/
theorem Faulty.append_lineFeed {before stretch after : List Char} {fault : Fault}
    (h : Faulty before stretch after fault) (more : List Char) :
    fault ≠ .unterminatedString ∧ Faulty before stretch (after ++ '\n' :: more) fault ∨
      fault = .unterminatedString ∧ before = [] ∧ after = [] ∧
        Faulty stretch ['\n'] more (.illegalInString '\n') := by
  cases h with
  | unexpectedCharacter hc => exact Or.inl ⟨Fault.noConfusion, .unexpectedCharacter hc⟩
  | @loneHash after ha =>
    refine Or.inl ⟨Fault.noConfusion, .loneHash ?_⟩
    cases after with
    | nil => exact fun h => absurd (Option.some.inj h) (by decide)
    | cons c cs => exact ha
  | illegalInString hb hc hq => exact Or.inl ⟨Fault.noConfusion, .illegalInString hb hc hq⟩
  | unterminatedString hb =>
    exact Or.inr ⟨rfl, rfl, rfl, .illegalInString hb (by decide) (by decide)⟩
  | @numberTooLarge d ds after hd hds hstop hv =>
    refine Or.inl ⟨Fault.noConfusion, .numberTooLarge hd hds ?_ hv⟩
    cases after with
    | nil =>
      rintro c ⟨⟩
      decide
    | cons c cs => exact hstop

namespace Lexer

/-- Before a line feed a text comes to what it comes to at the end of a script:
its tokens, and what follows the line feed then, or its failure. -/
theorem collect_rest_line {s u : Lexer} {cs : List Char} (more : List Char) (hn : '\n' ∉ cs)
    (hf : s.finished = false) (ha : s.ahead = .text cs)
    (hf' : u.finished = false) (ha' : u.ahead = .text (cs ++ '\n' :: more))
    (hp : u.position = s.position) :
    collect u.rest.1 =
      match collect s.rest.1 with
      | .ok tokens =>
        (collect (u.moveTo (s.position.after (cs ++ ['\n'])) more).rest.1).map
          (tokens.filter (·.kind ≠ .endOfInput) ++ ·)
      | .error e => .error (e.beforeLineFeed (s.position.after cs)) := by
  induction hm : cs.length using Nat.strongRecOn generalizing s u cs with
  | ind m ih =>
    rcases read_text_cases ha with ⟨hg, hr⟩ |
      ⟨gap, kind, text, rest, rfl, hg, hl, he, hr⟩ |
      ⟨gap, before, stretch, after, fault, rfl, hg, hfault, hr⟩
    · -- the line is over, and with the line feed it is one gap
      have hread : u.read = (u.moveTo (s.position.after (cs ++ ['\n'])) more).read := by
        rw [← hp]
        apply read_of_gap hg.gap_append_lineFeed
        rw [ha', List.append_assoc]
        rfl
      have hsame : u.finished = (u.moveTo (s.position.after (cs ++ ['\n'])) more).finished := rfl
      rw [collect_rest_of_end hf (congrArg Prod.fst hr) rfl, rest_congr hsame hread]
      dsimp only [Layout.endAt]
      cases collect (u.moveTo (s.position.after (cs ++ ['\n'])) more).rest.1 <;> rfl
    · -- no lexeme goes on over the line feed, so both read the same token
      have he' : ∀ c ∈ (rest ++ '\n' :: more).head?, ¬ Extends text c := by
        cases rest with
        | nil =>
          rintro c ⟨⟩
          exact not_extends_of_gap (Or.inl rfl)
        | cons c rest => exact he
      have hr' := read_of_lexeme hg hl he' (s := u) (by rw [ha']; simp only [List.append_assoc])
      have hk := hl.kind_ne_endOfInput
      have hn' : '\n' ∉ rest := by
        intro hmem
        exact hn (List.mem_append_right gap (List.mem_append_right text hmem))
      have hlt : rest.length < m := by
        have := List.length_pos_iff.2 hl.ne_nil
        simp only [List.length_append] at hm
        omega
      have hnext := ih rest.length hlt hn' (s := s.read.2) (u := u.read.2)
        (by rw [finished_read, hf]) (by rw [hr]; rfl) (by rw [finished_read, hf'])
        (by rw [hr']; rfl) (by rw [hr, hr', hp]; rfl) rfl
      have hstop : ∀ tail, s.read.2.position.after (rest ++ tail) =
          s.position.after (gap ++ (text ++ rest) ++ tail) := by
        intro tail
        rw [hr]
        simp only [moveTo, ← Position.after_append, List.append_assoc]
      have hmove : ∀ q, u.read.2.moveTo q more = u.moveTo q more := by
        intro q
        rw [hr']
        rfl
      have hend := hstop []
      rw [List.append_nil, List.append_nil] at hend
      rw [hstop, hmove, hend] at hnext
      rw [collect_rest_of_token hf (congrArg Prod.fst hr) hk,
        collect_rest_of_token hf' (congrArg Prod.fst hr') hk, hnext, hp]
      cases collect s.read.2.rest.1 with
      | error e => rfl
      | ok tokens =>
        dsimp only [Except.map]
        rw [List.filter_cons_of_pos (by simpa using hk)]
        cases collect (u.moveTo _ more).rest.1 <;> rfl
    · rw [collect_rest_of_error hf hr]
      rcases hfault.append_lineFeed more with ⟨hne, hfault'⟩ | ⟨rfl, rfl, rfl, hfault'⟩
      · have hr' := read_of_faulty hg hfault' (s := u)
          (by rw [ha']; simp only [List.append_assoc])
        rw [collect_rest_of_error hf' hr', hp]
        dsimp only
        rw [Failure.beforeLineFeed_of_ne hne]
      · have hr' := read_of_faulty hg hfault' (s := u) (by rw [ha']; simp)
        rw [collect_rest_of_error hf' hr', hp]
        simp only [Failure.beforeLineFeed, List.nil_append, List.append_nil]
        rfl

end Lexer

/-! ## Line by line -/

/-- What a script of lines comes to where the lines `above` stand before it. -/
def lexBelow (above lines : List String) : Except Failure (List Token) :=
  collect ((Lexer.ofString (ofLines lines)).behind (Position.start.below above)).rest.1

theorem lexBelow_nil_left (lines : List String) : lexBelow [] lines = lex (ofLines lines) := by
  unfold lexBelow lex
  rfl

/-- Behind the last line there is only the end of the input. -/
theorem lexBelow_nil (above : List String) :
    lexBelow above [] = .ok [Layout.endAt (Position.start.below above)] := by
  have hr := Lexer.read_of_finalGap (.closed .nil)
    (s := (Lexer.ofString (ofLines [])).behind (Position.start.below above)) rfl
  have hposition : ((Lexer.ofString (ofLines [])).behind (Position.start.below above)).position =
      Position.start.below above := Position.start_behind _
  unfold lexBelow
  rw [Lexer.collect_rest_of_end rfl hr rfl, Position.after_nil, hposition]

theorem Token.behind_start_below (t : Token) (above : List String) :
    t.behind (Position.start.below above) = t.below above := by
  unfold behind below
  rw [Position.behind_start_below]

theorem Failure.behind_start_below (e : Failure) (above : List String) :
    e.behind (Position.start.below above) = e.below above := by
  unfold behind below
  rw [Position.behind_start_below]

theorem Failure.beforeLineFeed_behind (e : Failure) (stop p : Position) :
    (e.behind p).beforeLineFeed (stop.behind p) = (e.beforeLineFeed stop).behind p := by
  obtain ⟨fault, start, length⟩ := e
  cases fault <;> rfl

/-- A script of lines comes to what its first line comes to, and behind that to
what the other lines come to. -/
theorem lexBelow_cons {line : String} (h : '\n' ∉ line.toList) (above lines : List String) :
    lexBelow above (line :: lines) =
      match lex line with
      | .ok tokens =>
        (lexBelow (above ++ [line]) lines).map
          ((tokens.filter (·.kind ≠ .endOfInput)).map (·.below above) ++ ·)
      | .error e => .error ((e.beforeLineFeed (lineEnd line)).below above) := by
  have hline := Lexer.collect_rest_line (ofLines lines).toList h
    (s := (Lexer.ofString line).behind (Position.start.below above))
    (u := (Lexer.ofString (ofLines (line :: lines))).behind (Position.start.below above))
    rfl rfl rfl
    (by rw [← toList_ofLines_cons]; rfl) rfl
  have hposition : ((Lexer.ofString line).behind (Position.start.below above)).position =
      Position.start.below above := Position.start_behind _
  have hnext : ((Lexer.ofString (ofLines (line :: lines))).behind
        (Position.start.below above)).moveTo (Position.start.below (above ++ [line]))
          (ofLines lines).toList =
      (Lexer.ofString (ofLines lines)).behind (Position.start.below (above ++ [line])) := by
    simp only [Lexer.behind, Lexer.moveTo, Lexer.ofString, Position.start_behind]
  unfold lexBelow
  rw [hline, collect_rest_behind, hposition, Position.start_below_after h, hnext]
  cases lex line with
  | ok tokens =>
    dsimp only
    rw [List.filter_map]
    simp only [Token.behind_start_below]
    rfl
  | error e =>
    dsimp only
    rw [← Position.after_behind, Position.start_after_of_notMem h,
      Failure.beforeLineFeed_behind, Failure.behind_start_below]

/-- If every line is lexed without failure, the tokens of the script are those
of its lines. -/
theorem lexBelow_of_ok {lines : List String} (h : ∀ line ∈ lines, '\n' ∉ line.toList)
    {tokens : String → List Token} (hok : ∀ line ∈ lines, lex line = .ok (tokens line))
    (above : List String) :
    lexBelow above lines =
      .ok ((lines.zipIdx above.length).flatMap (fun (line, i) =>
          ((tokens line).filter (·.kind ≠ .endOfInput)).map
            (·.below ((above ++ lines).take i))) ++
        [Layout.endAt (Position.start.below (above ++ lines))]) := by
  induction lines generalizing above with
  | nil => rw [lexBelow_nil, List.append_nil]; rfl
  | cons line lines ih =>
    obtain ⟨hl, hls⟩ := List.forall_mem_cons.1 h
    obtain ⟨hline, hlines⟩ := List.forall_mem_cons.1 hok
    have hhere : (above ++ line :: lines).take above.length = above := List.take_left
    have hlength : (above ++ [line]).length = above.length + 1 := by simp
    rw [lexBelow_cons hl, hline]
    dsimp only
    rw [ih hls hlines, ← List.append_cons, hlength, List.zipIdx_cons, List.flatMap_cons]
    dsimp only [Except.map]
    rw [hhere, List.append_assoc]

/-- If a line fails and none before it does, the script fails as the line does. -/
theorem lexBelow_of_error {lines : List String} (h : ∀ line ∈ lines, '\n' ∉ line.toList)
    {line : String} {between after : List String} {e : Failure}
    (hlines : lines = between ++ line :: after)
    (hok : ∀ l ∈ between, ∃ tokens, lex l = .ok tokens) (he : lex line = .error e)
    (above : List String) :
    lexBelow above lines =
      .error ((e.beforeLineFeed (lineEnd line)).below (above ++ between)) := by
  subst hlines
  induction between generalizing above with
  | nil =>
    rw [List.nil_append, lexBelow_cons (h line List.mem_cons_self), he, List.append_nil]
  | cons l between ih =>
    obtain ⟨hl, hls⟩ := List.forall_mem_cons.1 h
    obtain ⟨⟨tokens, htokens⟩, hok⟩ := List.forall_mem_cons.1 hok
    rw [List.cons_append, lexBelow_cons hl, htokens]
    dsimp only
    rw [ih hok _ hls, List.append_assoc]
    rfl

/-! ## The law -/

/-- A script of lines is lexed if all its lines are, into the tokens of the
lines, each below the lines before its own, and one end.  Otherwise it fails as
its first line that fails, but a string that is open at the end of that line
fails at the line feed. -/
theorem a_script_answers_line_by_line (lines : List String)
    (h : ∀ line ∈ lines, '\n' ∉ line.toList) :
    (∀ tokens : String → List Token, (∀ line ∈ lines, lex line = .ok (tokens line)) →
      lex (ofLines lines) =
        .ok (lines.zipIdx.flatMap (fun (line, i) =>
            ((tokens line).filter (·.kind ≠ .endOfInput)).map (·.below (lines.take i))) ++
          [{ kind := .endOfInput,
             start := { line := lines.length + 1, column := 1, offset := sizeOfLines lines },
             text := "" }])) ∧
    ∀ above line after e, lines = above ++ line :: after →
      (∀ l ∈ above, ∃ tokens, lex l = .ok tokens) → lex line = .error e →
      lex (ofLines lines) = .error ((e.beforeLineFeed (lineEnd line)).below above) := by
  refine ⟨?_, ?_⟩
  · intro tokens hok
    have hend : Position.start.below lines =
        { line := lines.length + 1, column := 1, offset := sizeOfLines lines } := by
      unfold Position.below Position.start
      rw [Nat.add_comm, Nat.zero_add]
    have hall := lexBelow_of_ok h hok []
    rw [lexBelow_nil_left, List.nil_append, hend] at hall
    exact hall
  · intro above line after e hlines hok he
    rw [← lexBelow_nil_left]
    exact lexBelow_of_error h hlines hok he []

/-- A comment ends with its line, and a string that is open there fails at the
line feed. -/
theorem a_comment_is_over_and_a_string_is_open_where_a_line_ends :
    let named : Token := { kind := .identifier, start := .start, text := "a" }
    let less : Token := { kind := .operator .less, start := .start, text := "<" }
    let isOpen : Failure := { fault := .unterminatedString, start := .start, length := 2 }
    let lines := ["a ## é", "<"]
    let broken := ["a ## é", "\"b", "#"]
    ((∀ line ∈ lines, '\n' ∉ line.toList) ∧
      lex "a ## é" = .ok [named, Layout.endAt (lineEnd "a ## é")] ∧
      lex "<" = .ok [less, Layout.endAt (lineEnd "<")] ∧
      lex (ofLines lines) =
        .ok [named, less.below ["a ## é"],
          Layout.endAt { line := 3, column := 1, offset := 10 }]) ∧
    (∀ line ∈ broken, '\n' ∉ line.toList) ∧
    lex "\"b" = .error isOpen ∧
    lex (ofLines broken) =
      .error { fault := .illegalInString '\n',
               start := { line := 2, column := 3, offset := 10 }, length := 1 } := by
  intro named less isOpen lines broken
  have hlines : ∀ line ∈ lines, '\n' ∉ line.toList := by decide +kernel
  have hbroken : ∀ line ∈ broken, '\n' ∉ line.toList := by decide +kernel
  have hnamed : lex "a ## é" = .ok [named, Layout.endAt (lineEnd "a ## é")] := by decide +kernel
  have hless : lex "<" = .ok [less, Layout.endAt (lineEnd "<")] := by decide +kernel
  have hopen : lex "\"b" = .error isOpen := by decide +kernel
  refine ⟨⟨hlines, hnamed, hless, ?_⟩, hbroken, hopen, ?_⟩
  · let tokens : String → List Token := fun line =>
      if line = "<" then [less, Layout.endAt (lineEnd "<")]
      else [named, Layout.endAt (lineEnd "a ## é")]
    have hok : ∀ line ∈ lines, lex line = .ok (tokens line) :=
      List.forall_mem_cons.2 ⟨hnamed, List.forall_mem_singleton.2 hless⟩
    exact ((a_script_answers_line_by_line lines hlines).1 tokens hok).trans (by decide +kernel)
  · have hok : ∀ line ∈ ["a ## é"], ∃ tokens, lex line = .ok tokens :=
      List.forall_mem_singleton.2 ⟨_, hnamed⟩
    exact ((a_script_answers_line_by_line broken hbroken).2 _ _ _ _ rfl hok hopen).trans
      (by decide +kernel)

end ImageScript
