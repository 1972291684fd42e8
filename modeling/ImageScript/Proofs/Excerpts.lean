-- What an excerpt shows.  It is made of whole lines, which are cut again into
-- rows, one behind the other: so it covers the stretch it was made for, and a
-- stretch that ends where a row ends, or before, lies in one row.
import ImageScript.Excerpt
import Mathlib.Data.List.DropRight

namespace ImageScript

/-! ## Ends and pieces -/

section Pieces

variable {ends : Char → Option Char → Bool} {cs : List Char}

/-- The number of characters that end a piece of a text. -/
def endCount (ends : Char → Option Char → Bool) : List Char → Nat
  | [] => 0
  | c :: cs => endCount ends cs + if ends c cs.head? then 1 else 0

/-- What follows does not decide whether a row ends. -/
theorem endsRow_none (c : Char) (next : Option Char) (h : endsRow c next = true) :
    endsRow c none = true := h

theorem endCount_endsRow (cs : List Char) : endCount endsRow cs = cs.count '\n' := by
  induction cs with
  | nil => rfl
  | cons c cs ih => simp [endCount, ih, endsRow, List.count_cons]

/-- A character that ends a line does so at the end of a text too. -/
theorem endsLine_none (c : Char) (next : Option Char) (h : endsLine c next = true) :
    endsLine c none = true := by
  simp only [endsLine, Bool.or_eq_true, Bool.and_eq_true, decide_eq_true_eq] at h ⊢
  exact h.imp_right fun ⟨hc, _⟩ => ⟨hc, by simp⟩

/-- Ends are counted part by part, unless what follows decides on the last
character of the first part. -/
theorem endCount_append {a b : List Char}
    (ha : ∀ c ∈ a.getLast?, ends c b.head? = ends c none) :
    endCount ends (a ++ b) = endCount ends a + endCount ends b := by
  induction a with
  | nil => simp [endCount]
  | cons c a ih =>
    cases a with
    | nil =>
      have hc := ha c rfl
      by_cases hn : ends c none = true <;> simp [endCount, hc, hn, Nat.add_comm]
    | cons d a =>
      have hrest := ih (by simpa using ha)
      show endCount ends (d :: a ++ b) + (if ends c (some d) then 1 else 0) =
        endCount ends (d :: a) + (if ends c (some d) then 1 else 0) + endCount ends b
      rw [hrest]
      omega

/-- The first piece goes to the first end, and the others are cut as if it were
not there. -/
theorem splitAfter_eq_cons {piece : List Char} {pieces : List (List Char)}
    (h : splitAfter ends cs = piece :: pieces) :
    splitAfter ends pieces.flatten = pieces ∧
      (pieces ≠ [] → (∀ c ∈ piece.getLast?, ends c pieces.flatten.head? = true) ∧
        endCount ends cs = endCount ends pieces.flatten + 1) := by
  fun_induction splitAfter ends cs generalizing piece with
  | case1 => cases h
  | case2 c cs hc ih =>
    obtain ⟨rfl, rfl⟩ := List.cons.inj h
    simp [endCount, hc]
  | case3 c cs hc hnil ih =>
    obtain ⟨-, rfl⟩ := List.cons.inj h
    simp [splitAfter]
  | case4 c cs hc first pieces' hfirst ih =>
    obtain ⟨rfl, rfl⟩ := List.cons.inj h
    obtain ⟨hsplit, hends⟩ := ih hfirst
    have hne : first ≠ [] := by
      apply ne_nil_of_mem_splitAfter
      rw [hfirst]
      exact List.mem_cons_self
    refine ⟨hsplit, fun hp => ?_⟩
    obtain ⟨hlast, hcount⟩ := hends hp
    refine ⟨?_, ?_⟩
    · rw [List.getLast?_cons_of_ne_nil hne]
      exact hlast
    · simp [endCount, hc, hcount]

/-- Where pieces follow, an end stands in front of them, and as many ends as
pieces. -/
theorem splitAfter_eq_append {before after : List (List Char)}
    (h : splitAfter ends cs = before ++ after) (ha : after ≠ []) :
    (∀ c ∈ before.flatten.getLast?, ends c after.flatten.head? = true) ∧
      endCount ends cs = before.length + endCount ends after.flatten := by
  induction before generalizing cs with
  | nil =>
    have hcs := flatten_splitAfter ends cs
    rw [h, List.nil_append] at hcs
    simp [hcs]
  | cons piece before ih =>
    obtain ⟨hsplit, hends⟩ := splitAfter_eq_cons h
    obtain ⟨hlast, hcount⟩ := hends (by simp [ha])
    obtain ⟨hlast', hcount'⟩ := ih hsplit
    refine ⟨?_, ?_⟩
    · by_cases hne : before.flatten = []
      · simpa [hne] using hlast
      · rw [List.flatten_cons, List.getLast?_append_of_ne_nil _ hne]
        exact hlast'
    · rw [hcount, hcount', List.length_cons]
      omega

/-- A text that is over behind an end is cut on its own, and a piece that begins
there goes on to the next end. -/
theorem exists_splitAfter_behind {head tail : List Char} (d : Char) (rest : List Char)
    (hhead : ∀ c ∈ head.getLast?, ends c (tail ++ d :: rest).head? = true ∧ ends c none = true)
    (htail : ∀ c ∈ tail, ∀ next, ends c next = false) :
    ∃ piece pieces, d :: rest = d :: piece ++ pieces.flatten ∧
      splitAfter ends (head ++ (tail ++ d :: rest)) =
        splitAfter ends head ++ (tail ++ d :: piece) :: pieces := by
  obtain ⟨piece, pieces, hpieces, hline⟩ := exists_splitAfter_append htail d rest
  have hflat := flatten_splitAfter ends (d :: rest)
  rw [hpieces, List.flatten_cons] at hflat
  exact ⟨piece, pieces, hflat.symm, by rw [splitAfter_append hhead, hline]⟩

/-- Pieces that others follow are as many as there are ends in them. -/
theorem length_eq_endCount (hends : ∀ c next, ends c next = true → ends c none = true)
    {before after : List (List Char)} (h : splitAfter ends cs = before ++ after)
    (ha : after ≠ []) : before.length = endCount ends before.flatten := by
  obtain ⟨hlast, hcount⟩ := splitAfter_eq_append h ha
  have hsum : endCount ends cs = endCount ends before.flatten + endCount ends after.flatten := by
    rw [← endCount_append fun c hc => (hlast c hc).trans (hends _ _ (hlast c hc)).symm,
      ← List.flatten_append, ← h, flatten_splitAfter]
  omega

end Pieces

/-! ## Locating a byte -/

/-- A byte of a piece is found in that piece. -/
theorem locate_append (before after : List (List Char)) {piece : List Char} {inside : Nat}
    (h : inside < Utf8.length piece) :
    locate (Utf8.length before.flatten + inside) (before ++ piece :: after) =
      (before.length, inside) := by
  induction before with
  | nil => simp [locate, h]
  | cons first before ih =>
    have hlt : ¬ Utf8.length (first :: before).flatten + inside < Utf8.length first := by
      simp only [List.flatten_cons, Utf8.length_append]
      omega
    have hsub : Utf8.length (first :: before).flatten + inside - Utf8.length first =
        Utf8.length before.flatten + inside := by
      simp only [List.flatten_cons, Utf8.length_append]
      omega
    rw [List.cons_append, locate, if_neg hlt, hsub, ih]
    rfl

/-- A byte is found in one of the pieces in front if it is a byte of them. -/
theorem locate_fst_lt_iff (offset : Nat) (before after : List (List Char)) :
    (locate offset (before ++ after)).1 < before.length ↔
      offset < Utf8.length before.flatten := by
  induction before generalizing offset with
  | nil => simp
  | cons first before ih =>
    rw [List.cons_append, locate, List.flatten_cons, Utf8.length_append, List.length_cons]
    by_cases hlt : offset < Utf8.length first
    · simp [hlt]
      omega
    · have hrest := ih (offset - Utf8.length first)
      simp only [if_neg hlt]
      omega

theorem locate_fst_mono {offset offset' : Nat} (h : offset ≤ offset')
    (pieces : List (List Char)) : (locate offset pieces).1 ≤ (locate offset' pieces).1 := by
  induction pieces generalizing offset offset' with
  | nil => simp [locate]
  | cons piece pieces ih =>
    simp only [locate]
    by_cases hlt : offset < Utf8.length piece
    · simp [hlt]
    · have hlt' : ¬ offset' < Utf8.length piece := by omega
      simp only [if_neg hlt, if_neg hlt']
      exact Nat.succ_le_succ (ih (Nat.sub_le_sub_right h _))

/-! ## Excerpts -/

/-- An excerpt starts with the line of the first byte of its stretch or before,
and is over behind the line of the last byte. -/
theorem Excerpt.exists_around (offset length : Nat) (source : List Char) :
    ∃ skipped ≤ (locate offset (lines source)).1,
      ∃ stop > (locate (offset + length - 1) (lines source)).1,
        around offset length source =
          { linesBefore := skipped
            start := Utf8.length ((lines source).take skipped).flatten
            text := (((lines source).take stop).drop skipped).flatten } := by
  obtain ⟨last, inside, hlast⟩ : ∃ last inside,
      locate (offset + length - 1) (lines source) = (last, inside) := ⟨_, _, rfl⟩
  obtain ⟨more, hmore⟩ : ∃ more, more =
      if Utf8.length (lineBody ((lines source).getD last [])) ≤ inside then 1 else 0 := ⟨_, rfl⟩
  have hstop : last + 1 + contextLines + more > last := by omega
  rw [around, hlast]
  exact ⟨_, Nat.sub_le _ contextLines, _, hstop, by rw [hmore]⟩

/-- The lines of an excerpt are those behind some others, and they cover the
stretch that it was made for. -/
theorem Excerpt.exists_lines {offset length : Nat} {source : List Char} (hl : 0 < length)
    (h : offset + length ≤ Utf8.length source) :
    ∃ before shown after, lines source = before ++ (shown ++ after) ∧
      around offset length source =
        { linesBefore := before.length
          start := Utf8.length before.flatten
          text := shown.flatten } ∧
      Utf8.length before.flatten ≤ offset ∧
      offset + length ≤ Utf8.length (before ++ shown).flatten := by
  obtain ⟨skipped, hskipped, stop, hstop, he⟩ := exists_around offset length source
  have hmono := locate_fst_mono (show offset ≤ offset + length - 1 by omega) (lines source)
  have hlast := locate_fst_lt_iff (offset + length - 1) (lines source) []
  rw [List.append_nil, flatten_lines] at hlast
  have hbefore : ((lines source).take skipped).length = skipped := by
    rw [List.length_take]
    omega
  have hcut : (lines source).take skipped ++ ((lines source).take stop).drop skipped =
      (lines source).take stop := by
    have htake : ((lines source).take stop).take skipped = (lines source).take skipped := by
      rw [List.take_take, Nat.min_eq_left (by omega)]
    rw [← htake, List.take_append_drop]
  refine ⟨(lines source).take skipped, ((lines source).take stop).drop skipped,
    (lines source).drop stop, ?_, ?_, ?_, ?_⟩
  · rw [← List.append_assoc, hcut, List.take_append_drop]
  · rw [he, hbefore]
  · have hfirst := locate_fst_lt_iff offset ((lines source).take skipped)
      ((lines source).drop skipped)
    rw [List.take_append_drop, hbefore] at hfirst
    omega
  · have hstop' := locate_fst_lt_iff (offset + length - 1) ((lines source).take stop)
      ((lines source).drop stop)
    rw [List.take_append_drop, List.length_take] at hstop'
    rw [hcut]
    omega

/-- An excerpt is made of whole lines, those behind the lines that it leaves out,
and covers the stretch that it was made for. -/
theorem Excerpt.around_spec {offset length : Nat} {source : List Char} (hl : 0 < length)
    (h : offset + length ≤ Utf8.length source) :
    ∃ skipped text rest, source = skipped ++ text ++ rest ∧
      around offset length source =
        { linesBefore := endCount endsLine skipped, start := Utf8.length skipped, text } ∧
      Utf8.length skipped ≤ offset ∧
      offset + length ≤ Utf8.length skipped + Utf8.length text ∧
      (∀ c ∈ skipped.getLast?, endsLine c text.head? = true) ∧
      (rest ≠ [] → ∀ c ∈ text.getLast?, endsLine c rest.head? = true) := by
  obtain ⟨before, shown, after, hlines, he, hfrom, hto⟩ := exists_lines hl h
  rw [List.flatten_append, Utf8.length_append] at hto
  have hne : shown.flatten ≠ [] := by
    intro hnil
    rw [hnil, Utf8.length_nil] at hto
    omega
  have hbehind : shown ++ after ≠ [] := by
    intro hnil
    exact hne (by rw [(List.append_eq_nil_iff.1 hnil).1, List.flatten_nil])
  refine ⟨before.flatten, shown.flatten, after.flatten, ?_, ?_, hfrom, hto, ?_, ?_⟩
  · rw [← flatten_lines source, hlines]
    simp only [List.flatten_append, List.append_assoc]
  · rw [he, length_eq_endCount endsLine_none hlines hbehind]
  · intro c hc
    have hends := (splitAfter_eq_append hlines hbehind).1 c hc
    rw [List.flatten_append, List.head?_append_of_ne_nil _ hne] at hends
    exact hends
  · intro hrest c hc
    have hafter : after ≠ [] := by
      rintro rfl
      exact hrest rfl
    apply (splitAfter_eq_append (hlines.trans (List.append_assoc _ _ _).symm) hafter).1
    rw [List.flatten_append, List.getLast?_append_of_ne_nil _ hne]
    exact hc

/-! ## Rows -/

/-- Rows that stand one behind the other from the byte `lo` to the byte `hi`,
none of them empty. -/
def Tiles : Nat → List Row → Nat → Prop
  | lo, [], hi => lo = hi
  | lo, r :: rs, hi => r.start = lo ∧ 0 < r.length ∧ Tiles (lo + r.length) rs hi

theorem tiles_append_iff {lo hi : Nat} {before after : List Row} :
    Tiles lo (before ++ after) hi ↔ ∃ mid, Tiles lo before mid ∧ Tiles mid after hi := by
  induction before generalizing lo with
  | nil => simp [Tiles]
  | cons r before ih => simp [Tiles, ih, and_assoc]

/-- Every row lies between the ends. -/
theorem Tiles.bounds {lo hi : Nat} {rows : List Row} (h : Tiles lo rows hi) :
    lo ≤ hi ∧ ∀ r ∈ rows, lo ≤ r.start ∧ r.start + r.length ≤ hi := by
  induction rows generalizing lo with
  | nil =>
    obtain rfl : lo = hi := h
    simp
  | cons r rows ih =>
    obtain ⟨rfl, -, hrest⟩ := h
    obtain ⟨hle, hrows⟩ := ih hrest
    refine ⟨by omega, List.forall_mem_cons.2 ⟨⟨Nat.le_refl _, hle⟩, fun r' hr' => ?_⟩⟩
    have := hrows r' hr'
    omega

/-- The rows in front of a row are over where it starts, and the rows behind it
start where it is over, or later. -/
theorem Tiles.beside {lo hi : Nat} {before after : List Row} {row : Row}
    (h : Tiles lo (before ++ row :: after) hi) :
    (∀ r ∈ before, r.start + r.length ≤ row.start) ∧
      ∀ r ∈ after, row.start + row.length ≤ r.start := by
  obtain ⟨mid, hbefore, rfl, -, hafter⟩ := tiles_append_iff.1 h
  exact ⟨fun r hr => (hbefore.bounds.2 r hr).2, fun r hr => (hafter.bounds.2 r hr).1⟩

/-- Of rows that stand one behind the other only one holds a byte. -/
theorem Tiles.holds_eq_false {lo hi : Nat} {before after : List Row} {row : Row}
    (h : Tiles lo (before ++ row :: after) hi) {offset : Nat} (ho : row.holds offset = true) :
    ∀ r ∈ before ++ after, r.holds offset = false := by
  obtain ⟨hbefore, hafter⟩ := h.beside
  simp only [Row.holds, Bool.and_eq_true, decide_eq_true_eq] at ho
  intro r hr
  rw [Row.holds, Bool.and_eq_false_iff, decide_eq_false_iff_not, decide_eq_false_iff_not]
  rcases List.mem_append.1 hr with hr | hr
  · have := hbefore r hr
    omega
  · have := hafter r hr
    omega

/-- One member of a list is picked out where no other is. -/
theorem filter_eq_singleton {α : Type} {p : α → Bool} {before after : List α} {a : α}
    (ha : p a = true) (hothers : ∀ b ∈ before ++ after, p b = false) :
    (before ++ a :: after).filter p = [a] := by
  rw [List.forall_mem_append] at hothers
  refine List.filter_eq_cons_iff.2 ⟨before, after, rfl, ?_, ha, List.filter_eq_nil_iff.2 ?_⟩
  · intro b hb
    exact Bool.eq_false_iff.1 (hothers.1 b hb)
  · intro b hb
    exact Bool.eq_false_iff.1 (hothers.2 b hb)

theorem numberRows_append (number start : Nat) (before after : List (List Char)) :
    numberRows number start (before ++ after) =
      numberRows number start before ++
        numberRows (number + before.length) (start + Utf8.length before.flatten) after := by
  induction before generalizing number start with
  | nil => simp [numberRows]
  | cons piece before ih =>
    simp [numberRows, ih, Nat.add_assoc, Nat.add_comm 1]

theorem tiles_numberRows (number start : Nat) {pieces : List (List Char)}
    (h : ∀ piece ∈ pieces, piece ≠ []) :
    Tiles start (numberRows number start pieces) (start + Utf8.length pieces.flatten) := by
  induction pieces generalizing number start with
  | nil => simp [numberRows, Tiles]
  | cons piece pieces ih =>
    obtain ⟨hpiece, hpieces⟩ := List.forall_mem_cons.1 h
    rw [List.flatten_cons, Utf8.length_append, ← Nat.add_assoc]
    exact ⟨rfl, Utf8.length_pos hpiece, ih _ _ hpieces⟩

/-- The rows of an excerpt leave out nothing of it and share nothing. -/
theorem Excerpt.tiles_rows (e : Excerpt) :
    Tiles e.start e.rows (e.start + Utf8.length e.text) := by
  have hne : ∀ piece ∈ splitAfter endsRow e.text, piece ≠ [] := by
    intro piece hp
    exact ne_nil_of_mem_splitAfter hp
  have h := tiles_numberRows e.linesBefore e.start hne
  rw [flatten_splitAfter] at h
  exact h

/-- A row that holds a byte is the only one of its excerpt. -/
theorem Excerpt.filter_rows {e : Excerpt} {before after : List Row} {row : Row}
    (h : e.rows = before ++ row :: after) {offset : Nat} (ho : row.holds offset = true) :
    e.rows.filter (·.holds offset) = [row] := by
  have htiles := e.tiles_rows
  rw [h] at htiles ⊢
  exact filter_eq_singleton ho (htiles.holds_eq_false ho)

/-! ## The row of a stretch -/

/-- A text is cut behind the last of its characters of some sort. -/
theorem exists_append_rtakeWhile (p : Char → Bool) (cs : List Char) :
    ∃ head, cs = head ++ cs.rtakeWhile (fun c => !p c) ∧ (∀ c ∈ head.getLast?, p c = true) ∧
      ∀ c ∈ cs.rtakeWhile (fun c => !p c), p c = false := by
  refine ⟨cs.rdropWhile (fun c => !p c), List.rdropWhile_append_rtakeWhile.symm, ?_, ?_⟩
  · intro c hc
    obtain ⟨hne, rfl⟩ := List.mem_getLast?_eq_getLast hc
    simpa using List.rdropWhile_last_not _ cs hne
  · intro c hc
    simpa using List.mem_rtakeWhile_imp hc

/-- A stretch without a line feed, but perhaps for its last character, lies in
one row.  In front of the row there are as many rows as line feeds. -/
theorem exists_splitAfter_endsRow {inner stretch : List Char} (outer : List Char)
    (hne : stretch ≠ []) (hn : '\n' ∉ stretch.dropLast) :
    ∃ before left right after,
      splitAfter endsRow (inner ++ stretch ++ outer) =
        before ++ (left ++ stretch ++ right) :: after ∧
      inner = before.flatten ++ left ∧ outer = right ++ after.flatten ∧
      before.length = inner.count '\n' := by
  obtain rfl | ⟨init, last, rfl⟩ := stretch.eq_nil_or_concat'
  · exact absurd rfl hne
  rw [List.dropLast_concat] at hn
  obtain ⟨head, hinner, hlast, hnone⟩ := exists_append_rtakeWhile (· = '\n') inner
  simp only [decide_eq_true_eq, decide_eq_false_iff_not] at hlast hnone
  generalize inner.rtakeWhile _ = left at hinner hnone
  have hnone : '\n' ∉ left := fun hmem => hnone _ hmem rfl
  -- the row starts behind the last line feed of `inner`, and goes on at least to the
  -- last character of the stretch
  have hinit : ∀ c ∈ left ++ init, ∀ next, endsRow c next = false := by
    rintro c hc -
    simp only [endsRow, decide_eq_false_iff_not]
    rintro rfl
    simp [hnone, hn] at hc
  obtain ⟨right, after, hflat, hcut⟩ := exists_splitAfter_behind last outer
    (fun c hc => by simp [endsRow, hlast c hc]) hinit
  refine ⟨splitAfter endsRow head, left, right, after, ?_, ?_, (List.cons.inj hflat).2, ?_⟩
  · rw [hinner]
    simpa using hcut
  · rw [flatten_splitAfter, hinner]
  · rw [length_eq_endCount endsRow_none hcut (by simp), flatten_splitAfter, endCount_endsRow,
      hinner, List.count_append, List.count_eq_zero_of_not_mem hnone, Nat.add_zero]

/-- A stretch of an excerpt that ends where a row ends, or before, lies in one of
its rows, and a row that others follow ends with a line feed. -/
theorem Excerpt.exists_row {e : Excerpt} {inner stretch outer : List Char}
    (ht : e.text = inner ++ stretch ++ outer) (hne : stretch ≠ [])
    (hn : '\n' ∉ stretch.dropLast) :
    ∃ before head left right tail after,
      e.rows = before ++ Row.ofPiece (e.linesBefore + inner.count '\n')
        (e.start + Utf8.length head) (left ++ stretch ++ right) :: after ∧
      inner = head ++ left ∧ outer = right ++ tail ∧
      (tail ≠ [] → (left ++ stretch ++ right).getLast? = some '\n') := by
  obtain ⟨before, left, right, after, hsplit, hinner, houter, hcount⟩ :=
    exists_splitAfter_endsRow outer hne hn
  rw [rows, ht, hsplit, numberRows_append, numberRows, hcount]
  refine ⟨_, before.flatten, left, right, after.flatten, _, rfl, hinner, houter, fun htail => ?_⟩
  have hafter : after ≠ [] := by
    rintro rfl
    exact htail rfl
  have hends := (splitAfter_eq_append (hsplit.trans (List.append_cons before _ after)) hafter).1
  have hline : left ++ stretch ++ right ≠ [] := by simp [hne]
  rw [List.flatten_append, List.flatten_singleton, List.getLast?_append_of_ne_nil _ hline] at hends
  obtain ⟨c, hc⟩ : ∃ c, (left ++ stretch ++ right).getLast? = some c :=
    ⟨_, List.getLast?_eq_some_getLast hline⟩
  have hend := hends c hc
  simp only [endsRow, decide_eq_true_eq] at hend
  rw [hc, hend]

end ImageScript
