-- The mark of a report.  A line feed is at most the last character of a fault, so
-- all of a fault lies in one row of its excerpt, and this row alone is marked.
import ImageScript.Proofs.Drawings
import ImageScript.Proofs.LineEndings

namespace ImageScript

/-! ## The stretch at fault -/

theorem Faulty.stretch_ne_nil {before stretch after : List Char} {fault : Fault}
    (h : Faulty before stretch after fault) : stretch ≠ [] := by
  cases h <;> simp

/-- A line feed is at most the last character of a fault. -/
theorem Faulty.lineFeed_notMem_dropLast {before stretch after : List Char} {fault : Fault}
    (h : Faulty before stretch after fault) : '\n' ∉ stretch.dropLast := by
  cases h with
  | unexpectedCharacter _ => simp
  | loneHash _ => simp
  | illegalInString _ _ _ => simp
  | unterminatedString hb =>
    intro hmem
    exact lineFeed_notMem_string hb (List.dropLast_subset _ hmem)
  | numberTooLarge hd hds _ _ =>
    intro hmem
    exact lineFeed_notMem_of_all (by decide) (all_isDigit_of_isLeadingDigit hd hds)
      (List.dropLast_subset _ hmem)

/-- A fault that is a line feed breaks off a string, and no part of a string is a
carriage return. -/
theorem Faulty.head?_ne_lineFeed {before stretch after : List Char} {fault : Fault}
    (h : Faulty before stretch after fault) {text : List Char}
    (hr : (text ++ before).getLast? = some '\r') : stretch.head? ≠ some '\n' := by
  intro hs
  cases h with
  | unexpectedCharacter hc =>
    obtain rfl := Option.some.inj hs
    exact absurd hc.1 (by decide)
  | loneHash _ => cases hs
  | @illegalInString body _ c hb _ _ =>
    rw [List.getLast?_append_of_ne_nil _ (List.cons_ne_nil _ _)] at hr
    rcases List.mem_cons.1 (List.mem_of_getLast? hr) with hmem | hmem
    · cases hmem
    · exact absurd (List.all_eq_true.1 hb _ hmem) (by decide)
  | unterminatedString _ => cases hs
  | numberTooLarge hd _ _ _ =>
    obtain rfl := Option.some.inj hs
    cases hd

/-! ## The excerpt of a failure -/

/-- The excerpt that a failure is shown in. -/
def Failure.excerpt (e : Failure) (source : String) : Excerpt :=
  Excerpt.around e.span.offset e.span.length source.toList

/-- A script that fails is five texts: one that its excerpt leaves out, the
excerpt in three with the stretch at fault in the middle, and the rest. -/
structure Failure.ShownIn (e : Failure) (source : String)
    (skipped inner stretch outer rest : List Char) : Prop where
  text : source.toList = skipped ++ (inner ++ stretch ++ outer) ++ rest
  start : e.start = Position.start.after (skipped ++ inner)
  length : e.length = Utf8.length stretch
  excerpt : e.excerpt source =
    { linesBefore := endCount endsLine skipped
      start := Utf8.length skipped
      text := inner ++ stretch ++ outer }
  stretch_ne_nil : stretch ≠ []
  lineFeed_notMem : '\n' ∉ stretch.dropLast
  head?_ne_lineFeed : (skipped ++ inner).getLast? = some '\r' → stretch.head? ≠ some '\n'
  whole_lines_before : ∀ c ∈ skipped.getLast?, endsLine c (inner ++ stretch ++ outer).head? = true
  whole_lines : rest ≠ [] →
    ∀ c ∈ (inner ++ stretch ++ outer).getLast?, endsLine c rest.head? = true

theorem exists_shownIn {source : String} {e : Failure} (h : lex source = .error e) :
    ∃ skipped inner stretch outer rest, e.ShownIn source skipped inner stretch outer rest := by
  obtain ⟨text, before, stretch, after, hf, hsource, hstart, hlength⟩ := exists_faulty_of_lex h
  have hoffset : e.span.offset = Utf8.length (text ++ before) := by
    rw [Failure.span, hstart, Position.offset_after_start]
  have hsize : e.span.length = Utf8.length stretch := hlength
  have hsource' : source.toList = (text ++ before) ++ (stretch ++ after) := by
    rw [hsource]
    simp only [List.append_assoc]
  have hpos : 0 < e.span.length := by
    rw [hsize]
    exact Utf8.length_pos hf.stretch_ne_nil
  have hinside : e.span.offset + e.span.length ≤ Utf8.length source.toList := by
    rw [hsource', hoffset, hsize]
    simp only [Utf8.length_append]
    omega
  obtain ⟨skipped, shown, rest, htext, he, hfrom, hto, hskip, hend⟩ :=
    Excerpt.around_spec hpos hinside
  rw [hoffset] at hfrom hto
  rw [hsize] at hto
  -- the excerpt starts in front of the fault, and the fault is over in it
  obtain ⟨inner, hinner, hshown⟩ : ∃ inner, text ++ before = skipped ++ inner ∧
      shown ++ rest = inner ++ (stretch ++ after) := by
    apply Utf8.exists_append_of_length_le _ hfrom
    rw [← List.append_assoc, ← htext, hsource']
  obtain ⟨outer, rfl, -⟩ : ∃ outer, shown = inner ++ stretch ++ outer ∧ after = outer ++ rest := by
    apply Utf8.exists_append_of_length_le
    · rw [List.append_assoc, ← hshown]
    · rw [hinner] at hto
      simp only [Utf8.length_append] at hto ⊢
      omega
  refine ⟨skipped, inner, stretch, outer, rest, htext, ?_, hlength, he, hf.stretch_ne_nil,
    hf.lineFeed_notMem_dropLast, fun hr => ?_, hskip, hend⟩
  · rw [hstart, hinner]
  · rw [← hinner] at hr
    exact hf.head?_ne_lineFeed hr

/-! ## The row of a failure -/

namespace Failure.ShownIn

variable {e : Failure} {source : String} {skipped inner stretch outer rest : List Char}

theorem span_offset (h : e.ShownIn source skipped inner stretch outer rest) :
    e.span.offset = Utf8.length skipped + Utf8.length inner := by
  rw [Failure.span, h.start, Position.offset_after_start, Utf8.length_append]

theorem span_stop (h : e.ShownIn source skipped inner stretch outer rest) :
    e.span.stop = Utf8.length skipped + Utf8.length inner + Utf8.length stretch := by
  rw [Span.stop, h.span_offset, Failure.span, h.length]

/-- All of the stretch at fault lies in one row, and a row that ends in a carriage
return is not cut off from a line feed. -/
theorem exists_row (h : e.ShownIn source skipped inner stretch outer rest) :
    ∃ before row after front line back,
      (e.excerpt source).rows = before ++ row :: after ∧
      row = Row.ofPiece (endCount endsLine skipped + inner.count '\n') (Utf8.length front) line ∧
      source.toList = front ++ line ++ back ∧ row.holds e.span.offset = true ∧
      e.span.stop ≤ row.start + row.length ∧
      (line.getLast? = some '\r' → back.head? ≠ some '\n') := by
  obtain ⟨before, head, left, right, tail, after, hrows, rfl, rfl, htail⟩ :=
    Excerpt.exists_row (congrArg Excerpt.text h.excerpt) h.stretch_ne_nil h.lineFeed_notMem
  have hoffset := h.span_offset
  have hstop := h.span_stop
  have hpos := Utf8.length_pos h.stretch_ne_nil
  rw [h.excerpt] at hrows
  simp only [Utf8.length_append] at hoffset hstop
  refine ⟨before, _, after, skipped ++ head, left ++ stretch ++ right, tail ++ rest, ?_, rfl, ?_,
    ?_, ?_, fun hlast => ?_⟩
  · rw [h.excerpt, hrows, Utf8.length_append]
  · rw [h.text]
    simp only [List.append_assoc]
  · simp only [Row.holds, Row.ofPiece, Utf8.length_append, Bool.and_eq_true, decide_eq_true_eq]
    omega
  · simp only [Row.ofPiece, Utf8.length_append]
    omega
  · -- such a row is the last one, and where the excerpt is over a line is
    obtain rfl : tail = [] := by
      by_contra hne
      rw [htail hne] at hlast
      cases hlast
    rw [List.nil_append]
    by_cases hrest : rest = []
    · simp [hrest]
    · have hline : left ++ stretch ++ right ≠ [] := by simp [h.stretch_ne_nil]
      have hlast' : (head ++ left ++ stretch ++ (right ++ [])).getLast? = some '\r' := by
        rw [← hlast, ← List.getLast?_append_of_ne_nil head hline]
        simp only [List.append_assoc, List.append_nil]
      simpa [endsLine] using h.whole_lines hrest _ hlast'

/-- The fault touches the row that it lies in and no other. -/
theorem exists_touched_row (h : e.ShownIn source skipped inner stretch outer rest) :
    ∃ before row after, (e.excerpt source).rows = before ++ row :: after ∧
      row.holds e.span.offset = true ∧
      row.start ≤ e.span.offset ∧ e.span.stop ≤ row.start + row.length ∧
      Report.touches e.span row = true ∧
      ∀ r ∈ before ++ after, Report.touches e.span r = false := by
  obtain ⟨before, row, after, -, -, -, hrows, -, -, hholds, hto, -⟩ := h.exists_row
  have hfrom : row.start ≤ e.span.offset := by
    simp only [Row.holds, Bool.and_eq_true, decide_eq_true_eq] at hholds
    exact hholds.1
  have hlength : 0 < e.span.length := by
    rw [Failure.span, h.length]
    exact Utf8.length_pos h.stretch_ne_nil
  have htiles := (e.excerpt source).tiles_rows
  rw [hrows] at htiles
  exact ⟨before, row, after, hrows, hholds, hfrom, hto, Report.touches_of_le hlength hfrom hto,
    htiles.touches_eq_false hfrom hto⟩

end Failure.ShownIn

/-! ## The law -/

/-- A script that fails is shown in an excerpt that can be cut out of it and that
covers the fault.  The rows stand in it one behind the other, without a gap.  One
row holds the first byte of the fault, and it holds all the others too, so the fault
touches no other row.  Below this row, and below no other, stand the two lines of a
mark: a rule under what is shown of the fault, and the label where a pointer goes
down from it.  No other line of the report carries a label. -/
theorem every_failure_is_marked_in_one_row (source : String) (e : Failure)
    (h : lex source = .error e) :
    let excerpt := e.excerpt source
    let width := Report.numberWidth excerpt.rows
    let lines := Report.messageLines e.message ++ Report.frameLines e.span source.toList
    Report.text e source =
      "[" ++ e.start.text ++ "] " ++ Failure.code ++ "\n\n" ++
        String.ofList (lines.flatMap (· ++ ['\n'])) ∧
    Utf8.slice? excerpt.start (Utf8.length excerpt.text) source.toList = some excerpt.text ∧
    excerpt.start ≤ e.span.offset ∧ e.span.stop ≤ excerpt.start + Utf8.length excerpt.text ∧
    Tiles excerpt.start excerpt.rows (excerpt.start + Utf8.length excerpt.text) ∧
    ∃ before row after start pointer stop, excerpt.rows = before ++ row :: after ∧
      excerpt.rows.filter (·.holds e.span.offset) = [row] ∧
      excerpt.rows.filter (Report.touches e.span) = [row] ∧
      row.start ≤ e.span.offset ∧ e.span.stop ≤ row.start + row.length ∧
      start = Pen.home.columnAfter (e.span.offset - row.start) row.content ∧
      stop = max (Pen.home.columnAfter (e.span.stop - row.start) row.content) (start + 1) ∧
      pointer = (start + stop) / 2 ∧
      Report.frameLines e.span source.toList =
        (List.replicate (width + 2) ' ' ++ "╭─".toList ++ Report.title e.span source.toList) ::
          before.map (Report.shownRow width) ++
          Report.shownRow width row :: Report.pointerLine width start pointer stop ::
            Report.hereLine width pointer :: (after.map (Report.shownRow width) ++
              [List.replicate (width + 2) ' ' ++ "╰────".toList]) ∧
      lines.filter (Report.pointsHere width) = [Report.hereLine width pointer] := by
  dsimp only
  obtain ⟨skipped, inner, stretch, outer, rest, hs⟩ := exists_shownIn h
  obtain ⟨before, row, after, hrows, hholds, hfrom, hto, htouches, hothers⟩ :=
    hs.exists_touched_row
  have hoffset := hs.span_offset
  have hstop := hs.span_stop
  refine ⟨rfl, ?_, ?_, ?_, (e.excerpt source).tiles_rows, before, row, after, _, _, _, hrows,
    Excerpt.filter_rows hrows hholds, ?_, hfrom, hto, rfl, rfl, rfl, ?_, ?_⟩
  · rw [Utf8.slice?_eq_some_iff, hs.excerpt]
    exact ⟨skipped, rest, hs.text, rfl, rfl⟩
  · rw [hs.excerpt]
    dsimp only
    omega
  · rw [hs.excerpt]
    simp only [Utf8.length_append]
    omega
  · rw [hrows]
    exact filter_eq_singleton htouches hothers
  · rw [hrows]
    exact Report.frameLines_eq hrows htouches hothers
  · rw [hrows]
    exact Report.filter_pointsHere hrows htouches hothers e.message

/-- A line feed that breaks off a string is the last character of the row that is
marked.  The comment above it looks like a label, but it stands in a row. -/
theorem a_string_that_breaks_off_is_marked_in_its_row :
    ∃ e, lex "## · ╰── here\n\"b\nc" = .error e ∧ e.fault = .illegalInString '\n' ∧
      ∃ row, (e.excerpt "## · ╰── here\n\"b\nc").rows.filter (Report.touches e.span) = [row] ∧
        row.number = 2 ∧ row.start ≤ e.span.offset ∧ e.span.stop = row.start + row.length ∧
        (Report.messageLines e.message ++
            Report.frameLines e.span "## · ╰── here\n\"b\nc".toList).filter
          (Report.pointsHere 1) = ["   ·   ╰── here".toList] := by
  let e : Failure :=
    { fault := .illegalInString '\n', start := { line := 2, column := 3, offset := 23 },
      length := 1 }
  have h : lex "## · ╰── here\n\"b\nc" = .error e := by decide +kernel
  obtain ⟨-, -, -, -, -, before, row, after, start, pointer, stop, -, -, htouches, hfrom, -, hstart,
    hstop, hpointer, -, hmark⟩ := every_failure_is_marked_in_one_row _ _ h
  have hrows : (e.excerpt "## · ╰── here\n\"b\nc").rows.filter (Report.touches e.span) =
      [{ number := 2, start := 21, length := 3, content := "\"b".toList }] := by
    decide +kernel
  have hwidth : Report.numberWidth (e.excerpt "## · ╰── here\n\"b\nc").rows = 1 := by decide +kernel
  obtain ⟨rfl, -⟩ := List.cons.inj (htouches.symm.trans hrows)
  obtain rfl : start = 2 := hstart.trans (by decide +kernel)
  obtain rfl : stop = 3 := hstop.trans (by decide +kernel)
  obtain rfl : pointer = 2 := hpointer
  rw [hwidth] at hmark
  exact ⟨e, h, rfl, _, htouches, rfl, hfrom, rfl, hmark⟩

end ImageScript
