-- Line numbers in a report.  A position counts line feeds.  The excerpt also
-- counts the carriage returns that no line feed follows, in its heading all of
-- them and at its rows those in front of it.  So the numbers differ by lone
-- carriage returns, and by nothing else.
import ImageScript.Proofs.Lines
import ImageScript.Proofs.Marks

namespace ImageScript

/-! ## Lone carriage returns -/

/-- A carriage return that no line feed follows. -/
def isLoneReturn (c : Char) (next : Option Char) : Bool :=
  c = '\r' && next ≠ some '\n'

/-- The number of carriage returns in a text that no line feed follows. -/
def loneReturns (cs : List Char) : Nat :=
  endCount isLoneReturn cs

/-- A line ends with a line feed or with a lone carriage return. -/
theorem endCount_endsLine (cs : List Char) :
    endCount endsLine cs = cs.count '\n' + loneReturns cs := by
  unfold loneReturns
  induction cs with
  | nil => rfl
  | cons c cs ih =>
    by_cases hc : c = '\n'
    · subst hc
      simp [endCount, ih, endsLine, isLoneReturn, Nat.add_right_comm]
    · simp [endCount, ih, endsLine, isLoneReturn, hc, List.count_cons_of_ne hc, Nat.add_assoc]

theorem isLoneReturn_eq_none {c : Char} {next : Option Char}
    (h : c = '\r' → next ≠ some '\n') : isLoneReturn c next = isLoneReturn c none := by
  by_cases hc : c = '\r'
  · simp [isLoneReturn, hc, h hc]
  · simp [isLoneReturn, hc]

theorem loneReturns_append {a b : List Char}
    (h : a.getLast? = some '\r' → b.head? ≠ some '\n') :
    loneReturns (a ++ b) = loneReturns a + loneReturns b := by
  apply endCount_append
  intro c hc
  apply isLoneReturn_eq_none
  rintro rfl
  exact h hc

theorem loneReturns_of_notMem {cs : List Char} (h : '\r' ∉ cs) : loneReturns cs = 0 := by
  unfold loneReturns
  induction cs with
  | nil => rfl
  | cons c cs ih =>
    rw [List.mem_cons, not_or] at h
    simp [endCount, ih h.2, isLoneReturn, Ne.symm h.1]

/-- A carriage return at the end of a text is a lone one. -/
theorem loneReturns_pos_of_getLast? {cs : List Char} (h : cs.getLast? = some '\r') :
    0 < loneReturns cs := by
  obtain ⟨init, rfl⟩ := List.getLast?_eq_some_iff.1 h
  rw [loneReturns_append (by simp)]
  exact Nat.lt_of_lt_of_le Nat.zero_lt_one (Nat.le_add_left 1 _)

/-! ## The last line end of a text -/

/-- The part of a text behind its last line end. -/
def lastLine (cs : List Char) : List Char :=
  cs.rtakeWhile fun c => !isLineEnd c

theorem exists_append_lastLine (cs : List Char) :
    ∃ head, cs = head ++ lastLine cs ∧ (∀ c ∈ head.getLast?, isLineEnd c = true) ∧
      ∀ c ∈ lastLine cs, isLineEnd c = false :=
  exists_append_rtakeWhile isLineEnd cs

theorem notMem_of_isLineEnd_eq_false {cs : List Char} (h : ∀ c ∈ cs, isLineEnd c = false) :
    '\n' ∉ cs ∧ '\r' ∉ cs := by
  refine ⟨fun hmem => ?_, fun hmem => ?_⟩
  · exact absurd (h _ hmem) (by decide)
  · exact absurd (h _ hmem) (by decide)

theorem endsLine_of_isLineEnd {c : Char} {next : Option Char} (h : isLineEnd c = true)
    (hn : c = '\r' → next ≠ some '\n') : endsLine c next = true := by
  simp only [isLineEnd, endsLine, Bool.or_eq_true, Bool.and_eq_true, decide_eq_true_eq] at h ⊢
  exact h.imp_right fun hc => ⟨hc, hn hc⟩

/-- Behind its last line end a text holds no lone carriage return. -/
theorem loneReturns_append_of_isLineEnd_eq_false {head tail : List Char}
    (h : ∀ c ∈ tail, isLineEnd c = false) : loneReturns (head ++ tail) = loneReturns head := by
  obtain ⟨hlineFeed, hreturn⟩ := notMem_of_isLineEnd_eq_false h
  rw [loneReturns_append, loneReturns_of_notMem hreturn, Nat.add_zero]
  intro _ hhead
  exact hlineFeed (List.mem_of_mem_head? hhead)

/-- The lines of a text, and the piece of the next line in front of a byte. -/
theorem exists_lines_append {head tail rest : List Char}
    (hhead : ∀ c ∈ head.getLast?, isLineEnd c = true) (htail : ∀ c ∈ tail, isLineEnd c = false)
    (hne : rest ≠ []) (hr : (head ++ tail).getLast? = some '\r' → rest.head? ≠ some '\n') :
    ∃ piece pieces, lines (head ++ tail ++ rest) = lines head ++ (tail ++ piece) :: pieces ∧
      piece ≠ [] := by
  obtain ⟨d, rest, rfl⟩ := List.exists_cons_of_ne_nil hne
  have hstop : head.getLast? = some '\r' → (tail ++ d :: rest).head? ≠ some '\n' := by
    intro hlast
    cases tail with
    | nil =>
      rw [List.append_nil] at hr
      exact hr hlast
    | cons c tail =>
      rintro ⟨⟩
      exact absurd (htail '\n' List.mem_cons_self) (by decide)
  have hinside : ∀ c ∈ tail, ∀ next, endsLine c next = false := by
    intro c hc next
    have hc := htail c hc
    simp only [isLineEnd, Bool.or_eq_false_iff, decide_eq_false_iff_not] at hc
    simp [endsLine, hc.1, hc.2]
  have hends : ∀ c ∈ head.getLast?,
      endsLine c (tail ++ d :: rest).head? = true ∧ endsLine c none = true := by
    intro c hc
    have hline := hhead c hc
    refine ⟨endsLine_of_isLineEnd hline ?_, endsLine_of_isLineEnd hline (by simp)⟩
    rintro rfl
    exact hstop hc
  obtain ⟨piece, pieces, -, hlines⟩ := exists_splitAfter_behind d rest hends hinside
  refine ⟨d :: piece, pieces, ?_, List.cons_ne_nil d piece⟩
  rw [lines, lines, List.append_assoc, hlines]

/-- The heading of an excerpt gives the byte behind a text the line that follows
all line feeds and lone carriage returns of the text. -/
theorem Report.heading_eq {front rest : List Char} (hne : rest ≠ [])
    (hr : front.getLast? = some '\r' → rest.head? ≠ some '\n') :
    heading (Utf8.length front) (front ++ rest) =
      { line := 1 + front.count '\n' + loneReturns front
        column := 1 + Utf8.length (lastLine front) } := by
  obtain ⟨head, hfront, hhead, htail⟩ := exists_append_lastLine front
  generalize lastLine front = tail at hfront htail ⊢
  subst hfront
  obtain ⟨piece, pieces, hlines, hpiece⟩ := exists_lines_append hhead htail hne hr
  have hcount : (lines head).length = head.count '\n' + loneReturns head := by
    rw [← endCount_endsLine, length_eq_endCount endsLine_none hlines (by simp), flatten_lines]
  have hinside : Utf8.length tail < Utf8.length (tail ++ piece) := by
    rw [Utf8.length_append]
    exact Nat.lt_add_of_pos_right (Utf8.length_pos hpiece)
  have hfound := locate_append (lines head) pieces hinside
  rw [← hlines, flatten_lines, ← Utf8.length_append, hcount] at hfound
  rw [heading, hfound, loneReturns_append_of_isLineEnd_eq_false htail, List.count_append,
    List.count_eq_zero_of_not_mem (notMem_of_isLineEnd_eq_false htail).1]
  simp only [Location.mk.injEq]
  omega

/-! ## Positions -/

theorem Position.line_after_start (cs : List Char) :
    (start.after cs).line = 1 + cs.count '\n' := by
  rw [after_start, ← Utf8.count_lineFeed_encode]
  rfl

/-- Without lone carriage returns the last line is the one behind the last line
feed. -/
theorem Position.column_after_start {cs : List Char} (h : loneReturns cs = 0) :
    (start.after cs).column = 1 + Utf8.length (lastLine cs) := by
  obtain ⟨head, hcs, hhead, htail⟩ := exists_append_lastLine cs
  generalize lastLine cs = tail at hcs htail ⊢
  subst hcs
  rw [loneReturns_append_of_isLineEnd_eq_false htail] at h
  have hcolumn : (start.after head).column = 1 := by
    obtain rfl | ⟨init, c, rfl⟩ := head.eq_nil_or_concat'
    · rfl
    · have hc := hhead c (by simp)
      simp only [isLineEnd, Bool.or_eq_true, decide_eq_true_eq] at hc
      rcases hc with rfl | rfl
      · rw [after_append]
        rfl
      · have hlast : (init ++ ['\r']).getLast? = some '\r' := by simp
        exact absurd h (Nat.ne_of_gt (loneReturns_pos_of_getLast? hlast))
  rw [after_append, after_of_notMem (notMem_of_isLineEnd_eq_false htail).1, hcolumn]

/-- What a text behind a line end counts is counted on. -/
theorem loneReturns_append_of_endsLine {a b : List Char}
    (h : ∀ c ∈ a.getLast?, endsLine c b.head? = true) :
    loneReturns (a ++ b) = loneReturns a + loneReturns b := by
  apply loneReturns_append
  intro hlast
  simpa [endsLine] using h _ hlast

/-! ## The numbers of a report -/

/-- All that a report says of the place of a failure is the same: the location in
front of it, the heading of the excerpt, if there is one, and the number of the row
that is marked. -/
def Report.NamesOnePosition (e : Failure) (source : String) : Prop :=
  (1 < (e.excerpt source).rows.length →
    heading e.span.offset source.toList = e.start.toLocation) ∧
  ∀ row ∈ (e.excerpt source).rows, row.holds e.span.offset = true → row.number = e.start.line

namespace Failure.ShownIn

variable {e : Failure} {source : String} {skipped inner stretch outer rest : List Char}

theorem source_eq (h : e.ShownIn source skipped inner stretch outer rest) :
    source.toList = (skipped ++ inner) ++ (stretch ++ (outer ++ rest)) := by
  rw [h.text]
  simp only [List.append_assoc]

theorem heading_eq (h : e.ShownIn source skipped inner stretch outer rest) :
    Report.heading e.span.offset source.toList =
      { line := e.start.line + loneReturns (skipped ++ inner)
        column := 1 + Utf8.length (lastLine (skipped ++ inner)) } := by
  have hne : stretch ++ (outer ++ rest) ≠ [] := by simp [h.stretch_ne_nil]
  have hr : (skipped ++ inner).getLast? = some '\r' →
      (stretch ++ (outer ++ rest)).head? ≠ some '\n' := by
    rw [List.head?_append_of_ne_nil _ h.stretch_ne_nil]
    exact h.head?_ne_lineFeed
  rw [h.source_eq, h.span_offset, ← Utf8.length_append, Report.heading_eq hne hr, h.start,
    Position.line_after_start]

theorem heading_eq_iff (h : e.ShownIn source skipped inner stretch outer rest) :
    Report.heading e.span.offset source.toList = e.start.toLocation ↔
      loneReturns (skipped ++ inner) = 0 := by
  rw [h.heading_eq]
  constructor
  · intro heq
    have hline := congrArg Location.line heq
    dsimp only at hline
    omega
  · intro hnone
    rw [← Position.column_after_start hnone, ← h.start, hnone]
    rfl

/-- A script without lone carriage returns has none in front of the fault. -/
theorem loneReturns_eq_zero (h : e.ShownIn source skipped inner stretch outer rest)
    (hnone : loneReturns source.toList = 0) :
    loneReturns skipped = 0 ∧ loneReturns (skipped ++ inner) = 0 := by
  have hskipped : loneReturns source.toList = loneReturns skipped +
      loneReturns (inner ++ stretch ++ outer ++ rest) := by
    rw [h.text, List.append_assoc skipped]
    apply loneReturns_append_of_endsLine
    rw [List.head?_append_of_ne_nil _ (by simp [h.stretch_ne_nil])]
    exact h.whole_lines_before
  have hfront : loneReturns source.toList = loneReturns (skipped ++ inner) +
      loneReturns (stretch ++ (outer ++ rest)) := by
    rw [h.source_eq]
    apply loneReturns_append
    rw [List.head?_append_of_ne_nil _ h.stretch_ne_nil]
    exact h.head?_ne_lineFeed
  omega

/-- The row that is marked has the number of the line, and one more for every lone
carriage return that the excerpt leaves out. -/
theorem exists_numbered_row (h : e.ShownIn source skipped inner stretch outer rest) :
    ∃ row line, (e.excerpt source).rows.filter (·.holds e.span.offset) = [row] ∧
      Utf8.slice? row.start row.length source.toList = some line ∧
      row.number + (if line.getLast? = some '\r' then 1 else 0) =
        e.start.line + loneReturns skipped ∧
      (line.getLast? = some '\r' → 0 < loneReturns source.toList) := by
  obtain ⟨before, row, after, front, line, back, hrows, hrow, hsource, hholds, -, hback⟩ :=
    h.exists_row
  refine ⟨row, line, Excerpt.filter_rows hrows hholds, ?_, ?_, fun hlast => ?_⟩
  · rw [Utf8.slice?_eq_some_iff, hrow]
    exact ⟨front, back, hsource, rfl, rfl⟩
  · rw [h.start, Position.line_after_start, List.count_append, hrow, endCount_endsLine]
    simp only [Row.ofPiece]
    split <;> omega
  · have hline : line ≠ [] := by
      rintro rfl
      cases hlast
    have hfront : (front ++ line).getLast? = some '\r' := by
      rw [List.getLast?_append_of_ne_nil _ hline, hlast]
    have hpos := loneReturns_pos_of_getLast? hfront
    rw [hsource, loneReturns_append fun _ => hback hlast]
    omega

end Failure.ShownIn

/-! ## What is printed -/

/-- A report prints the location in front of it, the heading behind the corner of its
frame, if there is more than one row, and the number of the row that is marked in
front of that row. -/
theorem a_report_prints_what_it_counts (source : String) (e : Failure)
    (h : lex source = .error e) :
    let rows := (e.excerpt source).rows
    let width := Report.numberWidth rows
    let heading := Report.heading e.span.offset source.toList
    (∃ below, Report.text e source =
      "[" ++ toString e.start.line ++ ":" ++ toString e.start.column ++ "]" ++ below) ∧
    (1 < rows.length → (Report.frameLines e.span source.toList).head? =
      some (List.replicate (width + 2) ' ' ++ "╭─[".toList ++ (toString heading.line).toList ++
        ':' :: (toString heading.column).toList ++ [']'])) ∧
    ∃ row above below start pointer stop, rows.filter (·.holds e.span.offset) = [row] ∧
      Report.frameLines e.span source.toList =
        above ++ (List.replicate (width - (toString row.number).toList.length + 1) ' ' ++
            (toString row.number).toList ++ " │ ".toList ++ Pen.home.expandTabs row.content) ::
          Report.pointerLine width start pointer stop :: Report.hereLine width pointer ::
          below := by
  dsimp only
  obtain ⟨skipped, inner, stretch, outer, rest, hs⟩ := exists_shownIn h
  obtain ⟨before, row, after, hrows, hholds, -, -, htouches, hothers⟩ := hs.exists_touched_row
  have hframe := Report.frameLines_eq hrows htouches hothers
  rw [← hrows] at hframe
  dsimp only at hframe
  refine ⟨?_, fun hmany => ?_, ?_⟩
  · have hbracket : "] " = "]" ++ " " := by decide
    rw [Report.text, Location.text, hbracket]
    simp only [String.append_assoc]
    exact ⟨_, rfl⟩
  · rw [hframe, Report.title_eq hmany]
    simp [Failure.excerpt]
  · rw [Report.shownRow_eq] at hframe
    exact ⟨row, _, _, _, _, _, Excerpt.filter_rows hrows hholds, hframe⟩

/-! ## The law -/

/-- The location in front of a report counts line feeds alone.  The heading of the
excerpt is later by the lone carriage returns in front of the fault, and the row
that is marked by those that the excerpt leaves out, but a row that ends in one is
not counted.  In a script without lone carriage returns all three agree. -/
theorem a_report_counts_lone_returns (source : String) (e : Failure)
    (h : lex source = .error e) :
    ∃ skipped inner rest, source.toList = skipped ++ inner ++ rest ∧
      Utf8.length skipped = (e.excerpt source).start ∧
      Utf8.length (skipped ++ inner) = e.span.offset ∧
      Report.heading e.span.offset source.toList =
        { line := e.start.line + loneReturns (skipped ++ inner)
          column := 1 + Utf8.length (lastLine (skipped ++ inner)) } ∧
      (Report.heading e.span.offset source.toList = e.start.toLocation ↔
        loneReturns (skipped ++ inner) = 0) ∧
      (∃ row line, (e.excerpt source).rows.filter (·.holds e.span.offset) = [row] ∧
        Utf8.slice? row.start row.length source.toList = some line ∧
        row.number + (if line.getLast? = some '\r' then 1 else 0) =
          e.start.line + loneReturns skipped) ∧
      (loneReturns source.toList = 0 → Report.NamesOnePosition e source) := by
  obtain ⟨skipped, inner, stretch, outer, rest, hs⟩ := exists_shownIn h
  obtain ⟨row, line, hfilter, hslice, hnumber, hreturn⟩ := hs.exists_numbered_row
  refine ⟨skipped, inner, stretch ++ (outer ++ rest), hs.source_eq, ?_, ?_, hs.heading_eq,
    hs.heading_eq_iff, ⟨row, line, hfilter, hslice, hnumber⟩,
    fun hnone => ⟨fun _ => ?_, fun r hr hholds => ?_⟩⟩
  · rw [hs.excerpt]
  · rw [hs.span_offset, Utf8.length_append]
  · exact hs.heading_eq_iff.2 (hs.loneReturns_eq_zero hnone).2
  · have hmem : r ∈ (e.excerpt source).rows.filter (·.holds e.span.offset) :=
      List.mem_filter.2 ⟨hr, hholds⟩
    rw [hfilter, List.mem_singleton] at hmem
    have hlast : line.getLast? ≠ some '\r' := by
      intro hlast
      have := hreturn hlast
      omega
    rw [if_neg hlast, (hs.loneReturns_eq_zero hnone).1] at hnumber
    rw [hmem]
    exact hnumber

/-- Lines that end in a carriage return and a line feed are counted alike. -/
theorem a_report_names_one_position_without_lone_returns :
    ∃ e, lex "a\r\n\r\n\"b\r\n" = .error e ∧
      loneReturns "a\r\n\r\n\"b\r\n".toList = 0 ∧
      1 < (e.excerpt "a\r\n\r\n\"b\r\n").rows.length ∧
      Report.NamesOnePosition e "a\r\n\r\n\"b\r\n" := by
  let e : Failure :=
    { fault := .illegalInString '\r', start := { line := 3, column := 3, offset := 7 },
      length := 1 }
  have h : lex "a\r\n\r\n\"b\r\n" = .error e := by decide +kernel
  have hnone : loneReturns "a\r\n\r\n\"b\r\n".toList = 0 := by decide +kernel
  obtain ⟨-, -, -, -, -, -, -, -, -, hagree⟩ := a_report_counts_lone_returns _ _ h
  exact ⟨e, h, hnone, by decide +kernel, hagree hnone⟩

/-- Four lone carriage returns.  The character at fault is in the first line by the
location in front of the report, in the fifth by the heading of the excerpt, and in
the second by the number of its row. -/
theorem a_report_names_three_lines :
    ∃ e, lex "\r\r\r\r@\nb" = .error e ∧
      Report.text e "\r\r\r\r@\nb" =
        "[1:5] imagelex::lex\n\n  × Unexpected character '@'\n   ╭─[5:1]\n 2 │ \r\r\r@\n" ++
          "   · ┬\n   · ╰── here\n 3 │ b\n   ╰────\n" ∧
      ¬ Report.NamesOnePosition e "\r\r\r\r@\nb" := by
  let e : Failure :=
    { fault := .unexpectedCharacter '@', start := { line := 1, column := 5, offset := 4 },
      length := 1 }
  have h : lex "\r\r\r\r@\nb" = .error e := by decide +kernel
  have hrows : 1 < (e.excerpt "\r\r\r\r@\nb").rows.length := by decide +kernel
  have hheading : Report.heading e.span.offset "\r\r\r\r@\nb".toList =
      { line := 5, column := 1 } := by decide +kernel
  refine ⟨e, h, by decide +kernel, ?_⟩
  intro hagree
  have heq := hheading.symm.trans (hagree.1 hrows)
  exact absurd heq (by decide)

end ImageScript
