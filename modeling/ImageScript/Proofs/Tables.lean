-- What a table of tokens says can be read back from it.  Its rows end where its
-- lines end, all cells of a column have their place, and a text is all that
-- stands behind the second column, whatever it looks like.
import ImageScript.Prompt
import ImageScript.Proofs.Respacing
import ImageScript.Table.Reading

namespace ImageScript

/-! ## Locations -/

namespace Location

theorem toList_text (l : Location) :
    l.text.toList = Nat.toDigits 10 l.line ++ ':' :: Nat.toDigits 10 l.column := by
  simp [text]

theorem toNat_of_mem_text {l : Location} {c : Char} (h : c ∈ l.text.toList) :
    48 ≤ c.toNat ∧ c.toNat ≤ 58 := by
  have hdigit : ∀ {n : Nat}, c ∈ Nat.toDigits 10 n → 48 ≤ c.toNat ∧ c.toNat ≤ 58 := by
    intro n hc
    have := toNat_of_isDigit (List.all_eq_true.1 (Decimal.all_isDigit_toDigits n) c hc)
    omega
  rw [toList_text, List.mem_append, List.mem_cons] at h
  rcases h with h | rfl | h
  · exact hdigit h
  · decide
  · exact hdigit h

/-- A location is the only one that is written in its way. -/
@[simp] theorem ofText?_text (l : Location) : ofText? l.text.toList = some l := by
  have hall : (Nat.toDigits 10 l.line).all (· ≠ ':') = true := by
    rw [List.all_eq_true]
    intro c hc
    have := toNat_of_isDigit (List.all_eq_true.1 (Decimal.all_isDigit_toDigits l.line) c hc)
    rw [decide_eq_true_eq]
    rintro rfl
    revert this
    decide
  have hstop : ∀ c ∈ (':' :: Nat.toDigits 10 l.column).head?, decide (c ≠ ':') = false := by
    simp
  unfold ofText?
  rw [toList_text, takeWhile_append_of_stop hall hstop, dropWhile_append_of_stop hall hstop]
  simp

end Location

namespace Table

/-! ## Rows -/

/-- A line of the table without its end. -/
def row (placeWidth nameWidth : Nat) (t : Token) : List Char :=
  (place t).leftpad placeWidth ' ' ++ (separator ++ ((name t).rightpad nameWidth ' '
    ++ (separator ++ t.text.toList)))

theorem line_eq (placeWidth nameWidth : Nat) (t : Token) :
    line placeWidth nameWidth t = row placeWidth nameWidth t ++ ['\n'] := by
  simp [line, row]

/-- Only a text can hold a space of its own. -/
theorem ne_space_of_mem_place {t : Token} {c : Char} (h : c ∈ place t) : c ≠ ' ' := by
  have := Location.toNat_of_mem_text h
  rintro rfl
  revert this
  decide

theorem ne_space_of_mem_name {t : Token} {c : Char} (h : c ∈ name t) : c ≠ ' ' := by
  have := Kind.toNat_of_mem_name h
  rintro rfl
  revert this
  decide

/-- A location that is moved to the right is found behind the spaces. -/
theorem takeWhile_leftpad_place {t : Token} (width : Nat) (rest : List Char) :
    ((place t).leftpad width ' ' ++ rest).takeWhile (· = ' ') =
        List.replicate (width - (place t).length) ' ' ∧
      ((place t).leftpad width ' ' ++ rest).dropWhile (· = ' ') = place t ++ rest := by
  have hall : (List.replicate (width - (place t).length) ' ').all (· = ' ') = true := by
    simp
  have hstop : ∀ c ∈ (place t ++ rest).head?, decide (c = ' ') = false := by
    intro c hc
    have hne : place t ≠ [] := by simp [place, Location.toList_text]
    obtain ⟨d, ds, hplace⟩ := List.exists_cons_of_ne_nil hne
    have hmem : c ∈ place t := by
      rw [hplace] at hc ⊢
      exact List.mem_of_mem_head? hc
    simpa using ne_space_of_mem_place hmem
  rw [List.leftpad, List.append_assoc]
  exact ⟨takeWhile_append_of_stop hall hstop, dropWhile_append_of_stop hall hstop⟩

theorem takeWhile_rightpad_name (t : Token) (width : Nat) :
    ((name t).rightpad width ' ').takeWhile (· ≠ ' ') = name t := by
  apply takeWhile_append_of_stop
  · rw [List.all_eq_true]
    intro c hc
    simpa using ne_space_of_mem_name hc
  · intro c hc
    simp [List.eq_of_mem_replicate (List.mem_of_mem_head? hc)]

/-- In a row that both columns are wide enough for, every cell has its place. -/
theorem cells_of_row {placeWidth nameWidth : Nat} {t : Token}
    (hp : (place t).length ≤ placeWidth) (hn : (name t).length ≤ nameWidth) :
    (row placeWidth nameWidth t).take placeWidth = (place t).leftpad placeWidth ' ' ∧
      ((row placeWidth nameWidth t).drop (placeWidth + separator.length)).take nameWidth =
        (name t).rightpad nameWidth ' ' ∧
      (row placeWidth nameWidth t).drop
          (placeWidth + separator.length + nameWidth + separator.length) = t.text.toList := by
  have hplace : ((place t).leftpad placeWidth ' ').length = placeWidth := by
    rw [List.length_leftpad, Nat.max_eq_left hp]
  have hname : ((name t).rightpad nameWidth ' ').length = nameWidth := by
    rw [List.length_rightpad, Nat.max_eq_left hn]
  have hbehind : (row placeWidth nameWidth t).drop (placeWidth + separator.length) =
      (name t).rightpad nameWidth ' ' ++ (separator ++ t.text.toList) := by
    rw [row, ← List.drop_drop, List.drop_left' hplace, List.drop_left]
  refine ⟨?_, ?_, ?_⟩
  · rw [row, List.take_left' hplace]
  · rw [hbehind, List.take_left' hname]
  · rw [Nat.add_assoc, ← List.drop_drop, hbehind, ← List.drop_drop, List.drop_left' hname,
      List.drop_left]

/-- So the row is read back. -/
theorem readRow_row {placeWidth nameWidth : Nat} {t : Token}
    (hp : (place t).length ≤ placeWidth) (hn : (name t).length ≤ nameWidth) :
    readRow placeWidth nameWidth (row placeWidth nameWidth t) = some (.ofToken t) := by
  obtain ⟨hplace, hname, htext⟩ := cells_of_row hp hn
  have hcell := (takeWhile_leftpad_place (t := t) placeWidth []).2
  rw [List.append_nil, List.append_nil] at hcell
  unfold readRow
  dsimp only
  rw [hplace, hname, htext, hcell, takeWhile_rightpad_name]
  simp [place, name, Entry.ofToken]

/-- The width of the first column shows in any row. -/
theorem placeWidthOf_row {placeWidth nameWidth : Nat} {t : Token}
    (hp : (place t).length ≤ placeWidth) :
    placeWidthOf (row placeWidth nameWidth t) = placeWidth := by
  obtain ⟨htake, hdrop⟩ := takeWhile_leftpad_place (t := t) placeWidth
    (separator ++ ((name t).rightpad nameWidth ' ' ++ (separator ++ t.text.toList)))
  have hall : (place t).all (· ≠ ' ') = true := by
    rw [List.all_eq_true]
    intro c hc
    simpa using ne_space_of_mem_place hc
  have hcell := takeWhile_append_of_stop hall
    (b := separator ++ ((name t).rightpad nameWidth ' ' ++ (separator ++ t.text.toList)))
    (by simp [separator])
  unfold placeWidthOf
  rw [row, htake, hdrop, hcell, List.length_replicate]
  omega

theorem length_row {placeWidth nameWidth : Nat} {t : Token}
    (hp : (place t).length ≤ placeWidth) (hn : (name t).length ≤ nameWidth) :
    (row placeWidth nameWidth t).length =
      placeWidth + nameWidth + 2 * separator.length + t.text.toList.length := by
  simp only [row, List.length_append, List.length_leftpad, List.length_rightpad,
    Nat.max_eq_left hp, Nat.max_eq_left hn]
  omega

/-- A row is as printable as its text. -/
theorem toNat_of_mem_row {placeWidth nameWidth : Nat} {t : Token} {c : Char}
    (ht : ∀ d ∈ t.text.toList, 32 ≤ d.toNat ∧ d.toNat ≤ 126)
    (h : c ∈ row placeWidth nameWidth t) : 32 ≤ c.toNat ∧ c.toNat ≤ 126 := by
  have hspace : c = ' ' → 32 ≤ c.toNat ∧ c.toNat ≤ 126 := by
    rintro rfl
    decide
  simp only [row, List.leftpad, List.rightpad, separator, List.mem_append, List.mem_replicate,
    List.mem_cons, List.not_mem_nil, or_false, or_self] at h
  rcases h with (h | h) | h | (h | h) | h | h
  · exact hspace h.2
  · have := Location.toNat_of_mem_text h
    omega
  · exact hspace h
  · have := Kind.toNat_of_mem_name h
    omega
  · exact hspace h.2
  · exact hspace h
  · exact ht c h

/-! ## Tables -/

/-- Rows without a line feed are found again in the text that they make up. -/
theorem rowsOf_flatMap {rows : List (List Char)} (h : ∀ row ∈ rows, '\n' ∉ row) :
    rowsOf (rows.flatMap (· ++ ['\n'])) = rows := by
  induction rows with
  | nil => rfl
  | cons row rows ih =>
    rw [List.forall_mem_cons] at h
    have hrow : splitAfter endsRow (row ++ ['\n']) = [row ++ ['\n']] := by
      have hinside : ∀ c ∈ row, ∀ next, endsRow c next = false := by
        intro c hc next
        simp only [endsRow, decide_eq_false_iff_not]
        rintro rfl
        exact h.1 hc
      obtain ⟨piece, pieces, hend, hall⟩ :=
        exists_splitAfter_append hinside '\n' []
      cases hend
      exact hall
    have hcut : splitAfter endsRow (row ++ ['\n'] ++ rows.flatMap (· ++ ['\n'])) =
        splitAfter endsRow (row ++ ['\n']) ++ splitAfter endsRow (rows.flatMap (· ++ ['\n'])) := by
      apply splitAfter_append
      simp [endsRow]
    have hrest := ih h.2
    unfold rowsOf at hrest ⊢
    rw [List.flatMap_cons, hcut, hrow, List.map_append, hrest]
    simp

/-- A table is its rows, with both columns as wide as their longest cells. -/
theorem toList_text (tokens : List Token) :
    (text tokens).toList =
      (tokens.map (row (columnWidth place tokens) (columnWidth name tokens))).flatMap
        (· ++ ['\n']) := by
  simp only [text, String.toList_ofList, List.flatMap_map, ← line_eq]

/-- What the table says of a token, as a token. -/
def Entry.token (e : Entry) : Token where
  kind := e.kind
  start := { e.place with offset := 0 }
  text := e.text

/-- A table shows no more of the tokens than their entries. -/
theorem text_congr {tokens tokens' : List Token}
    (h : tokens.map Entry.ofToken = tokens'.map Entry.ofToken) : text tokens = text tokens' := by
  have hentries : ∀ ts, text ts = text ((ts.map Entry.ofToken).map Entry.token) := by
    intro ts
    simp only [text, columnWidth, List.map_map, List.flatMap_map]
    rfl
  rw [hentries, h, ← hentries]

/-- All rows of a table are read back at once. -/
theorem mapM_readRow {placeWidth nameWidth : Nat} {tokens : List Token}
    (h : ∀ t ∈ tokens, (place t).length ≤ placeWidth ∧ (name t).length ≤ nameWidth) :
    (tokens.map (row placeWidth nameWidth)).mapM (readRow placeWidth nameWidth) =
      some (tokens.map .ofToken) := by
  induction tokens with
  | nil => rfl
  | cons t tokens ih =>
    rw [List.forall_mem_cons] at h
    simp [readRow_row h.1.1 h.1.2, ih h.2]

/-- All texts in a table are printable. -/
def Printable (tokens : List Token) : Prop :=
  ∀ t ∈ tokens, ∀ c ∈ t.text.toList, 32 ≤ c.toNat ∧ c.toNat ≤ 126

theorem lineFeed_notMem_row {tokens : List Token} (h : Printable tokens)
    (placeWidth nameWidth : Nat) :
    ∀ r ∈ tokens.map (row placeWidth nameWidth), '\n' ∉ r := by
  intro r hr hmem
  obtain ⟨t, ht, rfl⟩ := List.mem_map.1 hr
  have := toNat_of_mem_row (h t ht) hmem
  revert this
  decide

theorem toNat_of_mem_text {tokens : List Token} (h : Printable tokens) {c : Char}
    (hc : c ∈ (text tokens).toList) : c = '\n' ∨ 32 ≤ c.toNat ∧ c.toNat ≤ 126 := by
  simp only [toList_text, List.flatMap_map, List.mem_flatMap, List.mem_append,
    List.mem_singleton] at hc
  obtain ⟨t, ht, hc | hc⟩ := hc
  · exact Or.inr (toNat_of_mem_row (h t ht) hc)
  · exact Or.inl hc

/-- A table that ends with the end of the input is read back.  Its first row shows
the width of the first column, its last row that of the second. -/
theorem read_text {lexemes : List Token} {stop : Position}
    (h : Printable (lexemes ++ [Layout.endAt stop])) :
    read (text (lexemes ++ [Layout.endAt stop])) =
      some ((lexemes ++ [Layout.endAt stop]).map .ofToken) := by
  obtain ⟨tokens, htokens⟩ : ∃ tokens, tokens = lexemes ++ [Layout.endAt stop] := ⟨_, rfl⟩
  rw [← htokens] at h ⊢
  have hplace : ∀ t ∈ tokens, (place t).length ≤ columnWidth place tokens :=
    fun t ht => length_le_columnWidth ht
  have hname : ∀ t ∈ tokens, (name t).length ≤ columnWidth name tokens :=
    fun t ht => length_le_columnWidth ht
  have hrows : rowsOf (text tokens).toList =
      tokens.map (row (columnWidth place tokens) (columnWidth name tokens)) := by
    rw [toList_text]
    exact rowsOf_flatMap (lineFeed_notMem_row h _ _)
  have hmem : Layout.endAt stop ∈ tokens := by simp [htokens]
  have hfirst : placeWidthOf ((tokens.map (row (columnWidth place tokens)
      (columnWidth name tokens))).headD []) = columnWidth place tokens := by
    cases tokens with
    | nil => simp at hmem
    | cons t tokens => exact placeWidthOf_row (hplace t List.mem_cons_self)
  have hlast : ((tokens.map (row (columnWidth place tokens)
      (columnWidth name tokens))).getLastD []).length =
        columnWidth place tokens + columnWidth name tokens + 2 * separator.length := by
    have hend := length_row (hplace _ hmem) (hname _ hmem)
    have htext : (Layout.endAt stop).text.toList.length = 0 := rfl
    rw [htext, Nat.add_zero] at hend
    rw [← hend]
    simp [htokens]
  unfold read
  dsimp only
  rw [hrows, hfirst, hlast, Nat.add_assoc, Nat.add_sub_cancel_left, Nat.add_sub_cancel]
  exact mapM_readRow fun t ht => ⟨hplace t ht, hname t ht⟩

end Table

/-! ## Tables of scripts -/

theorem Table.printable_of_lexemes {lexemes : List Token} (stop : Position)
    (h : ∀ t ∈ lexemes, Lexeme t.kind t.text.toList) :
    Printable (lexemes ++ [Layout.endAt stop]) := by
  intro t ht c hc
  rcases List.mem_append.1 ht with ht | ht
  · have := (h t ht).printable hc
    omega
  · rw [List.mem_singleton.1 ht] at hc
    cases hc

/-- The prompt has nothing to make readable in printable text. -/
theorem Prompt.showText_of_printable {text : String}
    (h : ∀ c ∈ text.toList, c = '\n' ∨ 32 ≤ c.toNat ∧ c.toNat ≤ 126) : showText text = text := by
  have hchar : ∀ c ∈ text.toList, showChar c = [c] := by
    intro c hc
    rcases h c hc with rfl | ⟨hlow, hhigh⟩
    · rfl
    · have h1 : c ≠ '\u2028' := by
        rintro rfl
        revert hhigh
        decide
      have h2 : c ≠ '\u2029' := by
        rintro rfl
        revert hhigh
        decide
      have h3 : ¬ c.toNat < 32 := by omega
      have h4 : ¬ (127 ≤ c.toNat ∧ c.toNat ≤ 159) := by omega
      by_cases hn : c = '\n' <;> simp [showChar, hn, h1, h2, h3, h4]
  unfold showText
  rw [List.flatMap_def, List.map_congr_left hchar, ← List.flatMap_def]
  simp

/-! ## The law -/

/-- The table of a script that is lexed is printable, with one line for each token
in their order.  There are widths for its first two columns with which every row
can be read at fixed places, and they can be found in the table.  So two tables are
equal only if they are those of tokens with equal locations, kinds and texts.  The
prompt prints the table as it is. -/
theorem a_table_can_be_read_back (source : String) (tokens : List Token)
    (h : lex source = .ok tokens) :
    (∀ c ∈ (Table.text tokens).toList, c = '\n' ∨ 32 ≤ c.toNat ∧ c.toNat ≤ 126) ∧
    (∃ (placeWidth nameWidth : Nat) (rows : List (List Char)),
      (Table.text tokens).toList = rows.flatMap (· ++ ['\n']) ∧ (∀ row ∈ rows, '\n' ∉ row) ∧
      rows.map (Table.readRow placeWidth nameWidth) =
        tokens.map fun t => some (Table.Entry.ofToken t)) ∧
    Table.read (Table.text tokens) = some (tokens.map .ofToken) ∧
    (∀ source' tokens', lex source' = .ok tokens' →
      (Table.text tokens = Table.text tokens' ↔
        tokens.map Table.Entry.ofToken = tokens'.map Table.Entry.ofToken)) ∧
    Prompt.answer source = Table.text tokens ++ "\n" := by
  have hread : ∀ {source tokens}, lex source = .ok tokens →
      Table.Printable tokens ∧ Table.read (Table.text tokens) = some (tokens.map .ofToken) := by
    intro source tokens h
    obtain ⟨lexemes, stop, rfl, hl⟩ := exists_lexemes_of_lex h
    have hprintable := Table.printable_of_lexemes stop hl
    exact ⟨hprintable, Table.read_text hprintable⟩
  obtain ⟨hprintable, hentries⟩ := hread h
  refine ⟨fun c hc => Table.toNat_of_mem_text hprintable hc, ?_, hentries, ?_, ?_⟩
  · refine ⟨Table.columnWidth Table.place tokens, Table.columnWidth Table.name tokens, _,
      Table.toList_text tokens, Table.lineFeed_notMem_row hprintable _ _, ?_⟩
    rw [List.map_map]
    apply List.map_congr_left
    intro t ht
    exact Table.readRow_row (Table.length_le_columnWidth ht) (Table.length_le_columnWidth ht)
  · intro source' tokens' h'
    constructor
    · intro hequal
      have hentries' := (hread h').2
      rw [← hequal, hentries] at hentries'
      exact Option.some.inj hentries'
    · exact Table.text_congr
  · unfold Prompt.answer
    rw [h]
    apply Prompt.showText_of_printable
    intro c hc
    rw [String.toList_append, List.mem_append] at hc
    rcases hc with hc | hc
    · exact Table.toNat_of_mem_text hprintable hc
    · exact Or.inl (List.mem_singleton.1 hc)

/-- A string that looks like the end of a row, and like the row behind it. -/
theorem a_string_like_a_row_is_read_back :
    ∃ tokens, lex "\"  STRING_LIT   2:1  EOF  \"\n-" = .ok tokens ∧
      (∀ c ∈ (Table.text tokens).toList, c = '\n' ∨ 32 ≤ c.toNat ∧ c.toNat ≤ 126) ∧
      Table.read (Table.text tokens) = some
        [{ place := { line := 1, column := 1 }, kind := .literal .string,
           text := "\"  STRING_LIT   2:1  EOF  \"" },
         { place := { line := 2, column := 1 }, kind := .operator .minus, text := "-" },
         { place := { line := 2, column := 2 }, kind := .endOfInput, text := "" }] ∧
      Prompt.answer "\"  STRING_LIT   2:1  EOF  \"\n-" = Table.text tokens ++ "\n" := by
  have h : lex "\"  STRING_LIT   2:1  EOF  \"\n-" = .ok
      [{ kind := .literal .string, start := .start, text := "\"  STRING_LIT   2:1  EOF  \"" },
       { kind := .operator .minus, start := { line := 2, column := 1, offset := 28 }, text := "-" },
       Layout.endAt { line := 2, column := 2, offset := 29 }] := by
    decide +kernel
  obtain ⟨hprintable, -, hread, -, hprompt⟩ := a_table_can_be_read_back _ _ h
  exact ⟨_, h, hprintable, hread, hprompt⟩

end ImageScript
