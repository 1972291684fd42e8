-- How a report is drawn.  The lines of a mark stand beside the rows, where a row
-- has its number: a rule with a pointer in it, and the label below.  Whatever a
-- script holds, no row looks like that label, so a label that is found in a report
-- marks the row above it.
import ImageScript.Proofs.Excerpts
import ImageScript.Report

namespace ImageScript

/-! ## Rows that a span touches -/

/-- Of rows that stand one behind the other a span touches no other than the one
that it lies in. -/
theorem Tiles.touches_eq_false {lo hi : Nat} {before after : List Row} {row : Row} {span : Span}
    (h : Tiles lo (before ++ row :: after) hi) (hfrom : row.start ≤ span.offset)
    (hto : span.stop ≤ row.start + row.length) :
    ∀ r ∈ before ++ after, Report.touches span r = false := by
  obtain ⟨hbefore, hafter⟩ := h.beside
  intro r hr
  rw [Report.touches, Bool.and_eq_false_iff, decide_eq_false_iff_not, decide_eq_false_iff_not]
  rcases List.mem_append.1 hr with hr | hr
  · have := hbefore r hr
    omega
  · have := hafter r hr
    omega

namespace Report

theorem touches_of_le {row : Row} {span : Span} (hlength : 0 < span.length)
    (hfrom : row.start ≤ span.offset) (hto : span.stop ≤ row.start + row.length) :
    touches span row = true := by
  rw [touches, Bool.and_eq_true, decide_eq_true_eq, decide_eq_true_eq]
  unfold Span.stop at hto ⊢
  omega

/-! ## Numbers -/

theorem toList_toString (n : Nat) : (toString n).toList = Nat.toDigits 10 n := by
  rw [Nat.toString_eq_ofList_toDigits, String.toList_ofList]

/-- In front of a row stands its number, with spaces in front of it if it is not as
wide as the widest. -/
theorem shownRow_eq (width : Nat) (row : Row) :
    shownRow width row =
      List.replicate (width - (toString row.number).toList.length + 1) ' ' ++
        (toString row.number).toList ++ " │ ".toList ++ Pen.home.expandTabs row.content := by
  rw [toList_toString, List.replicate_succ]
  rfl

/-- An excerpt of more than one row is headed by a line and a column. -/
theorem title_eq {span : Span} {source : List Char}
    (h : 1 < (Excerpt.around span.offset span.length source).rows.length) :
    title span source = '[' :: (toString (heading span.offset source).line).toList ++
      ':' :: (toString (heading span.offset source).column).toList ++ [']'] := by
  rw [title, if_pos h, Location.text, String.toList_append, String.toList_append]
  simp

/-! ## The lines of a mark -/

/-- The line with the rule of a mark: it goes from the column `start` to the column
`stop`, and a pointer goes down from it at the column `pointer`. -/
def pointerLine (width start pointer stop : Nat) : List Char :=
  List.replicate (width + 2) ' ' ++ "· ".toList ++ List.replicate start ' ' ++
    List.replicate (pointer - start) '─' ++ '┬' :: List.replicate (stop - pointer - 1) '─'

/-- The line with the label of a mark, at the end of the pointer. -/
def hereLine (width pointer : Nat) : List Char :=
  List.replicate (width + 2) ' ' ++ "· ".toList ++ List.replicate pointer ' ' ++
    "╰── here".toList

/-- The line carries a label, beside the rows and not in one of them. -/
def pointsHere (width : Nat) (line : List Char) : Bool :=
  (List.replicate (width + 2) ' ' ++ "· ".toList).isPrefixOf line &&
    "╰── here".toList.isSuffixOf line

theorem markLines_eq (width : Nat) (span : Span) (row : Row) :
    markLines width span row =
      [pointerLine width (Mark.under row span).start (Mark.under row span).pointer
          (Mark.under row span).stop,
        hereLine width (Mark.under row span).pointer] := by
  have hmargin : ' ' :: spaces width ++ " · ".toList =
      List.replicate (width + 2) ' ' ++ "· ".toList := by
    rw [List.replicate_succ', List.append_assoc, List.replicate_succ]
    rfl
  have hlabel : "╰── ".toList ++ Failure.label.toList = "╰── here".toList := by decide
  rw [markLines, hmargin, Mark.lines, List.append_assoc _ "╰── ".toList, hlabel]
  simp only [pointerLine, hereLine, spaces, rule, List.append_assoc, List.singleton_append]

/-! ## Lines with a label and without -/

theorem pointsHere_hereLine (width pointer : Nat) :
    pointsHere width (hereLine width pointer) = true := by
  unfold pointsHere hereLine
  rw [Bool.and_eq_true, List.isPrefixOf_iff_prefix, List.isSuffixOf_iff_suffix]
  refine ⟨?_, List.suffix_append _ _⟩
  rw [List.append_assoc]
  exact List.prefix_append _ _

/-- In the margin of a label stands a dot, and nothing in front of it. -/
theorem pointsHere_of_margin {width n : Nat} {c : Char} (rest : List Char) (hn : n ≤ width + 2)
    (hspace : c ≠ ' ') (hdot : c ≠ '·') :
    pointsHere width (List.replicate n ' ' ++ c :: rest) = false := by
  rw [pointsHere, Bool.and_eq_false_iff, Bool.eq_false_iff, Ne, List.isPrefixOf_iff_prefix]
  left
  intro hprefix
  obtain ⟨more, hmore⟩ := Nat.exists_eq_add_of_le hn
  rw [hmore, List.replicate_add, List.append_assoc, List.prefix_append_right_inj] at hprefix
  cases more with
  | zero => exact hdot (List.cons_prefix_cons.1 hprefix).1.symm
  | succ more => exact hspace (List.cons_prefix_cons.1 hprefix).1.symm

/-- The rule of a mark is not its label. -/
theorem pointsHere_pointerLine (width start pointer stop : Nat) :
    pointsHere width (pointerLine width start pointer stop) = false := by
  rw [pointsHere, Bool.and_eq_false_iff, Bool.eq_false_iff (b := List.isSuffixOf _ _), Ne,
    List.isSuffixOf_iff_suffix]
  right
  rintro ⟨front, hfront⟩
  have hlast := congrArg List.getLast? hfront
  rw [pointerLine, List.getLast?_append_of_ne_nil _ (by decide),
    List.getLast?_append_of_ne_nil _ (List.cons_ne_nil _ _)] at hlast
  have hmem : 'e' ∈ '┬' :: List.replicate (stop - pointer - 1) '─' :=
    List.mem_of_getLast? hlast.symm
  simp at hmem

/-- A row begins with its number. -/
theorem pointsHere_shownRow (width : Nat) (row : Row) :
    pointsHere width (shownRow width row) = false := by
  obtain ⟨d, ds, hdigits⟩ : ∃ d ds, Nat.toDigits 10 row.number = d :: ds :=
    List.exists_cons_of_ne_nil Nat.toDigits_ne_nil
  have hd : d.isDigit = true := by
    apply Nat.isDigit_of_mem_toDigits (b := 10) (n := row.number) (by decide) (by decide)
    rw [hdigits]
    exact List.mem_cons_self
  have hspace : d ≠ ' ' := by
    rintro rfl
    cases hd
  have hdot : d ≠ '·' := by
    rintro rfl
    cases hd
  rw [shownRow_eq, toList_toString, hdigits, List.append_assoc, List.append_assoc,
    List.cons_append]
  refine pointsHere_of_margin _ ?_ hspace hdot
  rw [List.length_cons]
  omega

/-- A line of the message begins with a cross or with a bar. -/
theorem pointsHere_of_mem_messageLines (width : Nat) {message : String} {line : List Char}
    (h : line ∈ messageLines message) : pointsHere width line = false := by
  have hcross (rest : List Char) : pointsHere width ("  × ".toList ++ rest) = false :=
    pointsHere_of_margin (n := 2) (' ' :: rest) (Nat.le_add_left 2 width) (by decide) (by decide)
  have hbar (rest : List Char) : pointsHere width ("  │ ".toList ++ rest) = false :=
    pointsHere_of_margin (n := 2) (' ' :: rest) (Nat.le_add_left 2 width) (by decide) (by decide)
  unfold messageLines at h
  split at h
  · cases h
  · rcases List.mem_cons.1 h with rfl | h
    · exact hcross _
    · obtain ⟨rest, -, rfl⟩ := List.mem_map.1 h
      exact hbar rest

/-! ## A frame with one mark -/

section Frame

variable {span : Span} {source : List Char} {before after : List Row} {row : Row}

/-- Only the row that a span touches has more lines than its own. -/
theorem flatMap_rowLines (width : Nat) (hrow : touches span row = true)
    (hothers : ∀ r ∈ before ++ after, touches span r = false) :
    (before ++ row :: after).flatMap (rowLines width span) =
      before.map (shownRow width) ++ shownRow width row :: markLines width span row ++
        after.map (shownRow width) := by
  have plain {rows : List Row} (h : ∀ r ∈ rows, touches span r = false) :
      rows.flatMap (rowLines width span) = rows.map (shownRow width) := by
    induction rows with
    | nil => rfl
    | cons r rows ih =>
      obtain ⟨hr, hrows⟩ := List.forall_mem_cons.1 h
      simp [rowLines, hr, ih hrows]
  rw [List.forall_mem_append] at hothers
  simp [plain hothers.1, plain hothers.2, rowLines, hrow]

/-- The frame around rows of which a span touches one. -/
theorem frameLines_eq
    (hrows : (Excerpt.around span.offset span.length source).rows = before ++ row :: after)
    (hrow : touches span row = true) (hothers : ∀ r ∈ before ++ after, touches span r = false) :
    let width := numberWidth (before ++ row :: after)
    let mark := Mark.under row span
    frameLines span source =
      (List.replicate (width + 2) ' ' ++ "╭─".toList ++ title span source) ::
        before.map (shownRow width) ++
        shownRow width row :: pointerLine width mark.start mark.pointer mark.stop ::
          hereLine width mark.pointer :: (after.map (shownRow width) ++
            [List.replicate (width + 2) ' ' ++ "╰────".toList]) := by
  dsimp only
  rw [frameLines, hrows, flatMap_rowLines _ hrow hothers, markLines_eq, frame]
  simp only [spaces, List.append_assoc, List.cons_append, List.nil_append]

/-- In the report around such a frame one line carries a label. -/
theorem filter_pointsHere
    (hrows : (Excerpt.around span.offset span.length source).rows = before ++ row :: after)
    (hrow : touches span row = true) (hothers : ∀ r ∈ before ++ after, touches span r = false)
    (message : String) :
    (messageLines message ++ frameLines span source).filter
        (pointsHere (numberWidth (before ++ row :: after))) =
      [hereLine (numberWidth (before ++ row :: after)) (Mark.under row span).pointer] := by
  have hframe := frameLines_eq hrows hrow hothers
  dsimp only at hframe
  generalize numberWidth (before ++ row :: after) = width at hframe ⊢
  generalize Mark.under row span = mark at hframe ⊢
  have hcorner (title : List Char) : pointsHere width
      (List.replicate (width + 2) ' ' ++ "╭─".toList ++ title) = false := by
    rw [List.append_assoc]
    exact pointsHere_of_margin _ (Nat.le_refl _) (by decide) (by decide)
  have hbottom : pointsHere width (List.replicate (width + 2) ' ' ++ "╰────".toList) = false :=
    pointsHere_of_margin _ (Nat.le_refl _) (by decide) (by decide)
  have hshown (rows : List Row) : (rows.map (shownRow width)).filter (pointsHere width) = [] := by
    rw [List.filter_eq_nil_iff]
    intro line hline
    obtain ⟨r, -, rfl⟩ := List.mem_map.1 hline
    exact Bool.eq_false_iff.1 (pointsHere_shownRow width r)
  have hmessage : (messageLines message).filter (pointsHere width) = [] := by
    rw [List.filter_eq_nil_iff]
    intro line hline
    exact Bool.eq_false_iff.1 (pointsHere_of_mem_messageLines width hline)
  rw [hframe]
  simp only [List.filter_append, List.filter_cons, List.filter_nil, hmessage, hshown, hcorner,
    hbottom, pointsHere_shownRow, pointsHere_pointerLine, pointsHere_hereLine,
    Bool.false_eq_true, if_false, if_true, List.nil_append, List.append_nil]

end Frame

end Report

end ImageScript
