-- Where a byte reader is, however it is moved.  The place behind a line feed does
-- not tell the column in front of it, so a step can only be taken back because
-- the reader keeps the place where it began.  In every order of moves the kept
-- place is the true one of the byte before, and one step is all that can be taken
-- back.
import ImageScript.Proofs.Locations

namespace ImageScript

/-! ## Bytes and characters of a script -/

/-- A script can be cut where a character of it starts or ends, and nowhere
else. -/
theorem Utf8.exists_splitAt?_iff_isValid {source : String} {n : Nat} :
    (∃ front rest, splitAt? n source.toList = some (front, rest)) ↔
      (String.Pos.Raw.mk n).IsValid source := by
  rw [String.Pos.Raw.isValid_iff_exists_append]
  simp only [splitAt?_eq_some_iff]
  constructor
  · rintro ⟨front, rest, h, rfl⟩
    refine ⟨String.ofList front, String.ofList rest, ?_, ?_⟩
    · rw [← String.ofList_append, ← h, String.ofList_toList]
    · rw [String.Pos.Raw.ext_iff, String.byteIdx_rawEndPos, utf8ByteSize_eq_length,
        String.toList_ofList]
  · rintro ⟨front, rest, rfl, h⟩
    refine ⟨front.toList, rest.toList, String.toList_append, ?_⟩
    rw [← utf8ByteSize_eq_length, ← String.byteIdx_rawEndPos, ← h]

/-- Behind one more byte a position is true again. -/
theorem Position.TrueIn.afterByte {p : Position} {source : String} (h : p.TrueIn source)
    {b : UInt8} (hb : (Utf8.encode source.toList)[p.offset]? = some b) :
    (p.afterByte b).TrueIn source := by
  have hp : following ((Utf8.encode source.toList).take p.offset) = p := h.symm
  have htake : (Utf8.encode source.toList).take (p.offset + 1) =
      (Utf8.encode source.toList).take p.offset ++ [b] := by
    rw [List.take_add_one, hb, Option.toList_some]
  unfold TrueIn
  rw [offset_afterByte, htake, following_concat, hp]

namespace ByteReader

/-! ## What a reader is true to -/

/-- The reader is where the bytes before it end, and the place that it keeps, if
there is one, is where the bytes before the last of them end. -/
structure PlacedIn (c : ByteReader) (source : String) : Prop where
  source_eq : c.source = source
  offset_le : c.position.offset ≤ source.utf8ByteSize
  location_eq : c.position.toLocation =
    Location.following ((Utf8.encode source.toList).take c.position.offset)
  previous : ∀ p, c.previous = some p →
    p.offset + 1 = c.position.offset ∧
      p.toLocation = Location.following ((Utf8.encode source.toList).take p.offset)

/-- How the reader moves, if `given` are the bytes that it has given so far.
Only the last of them can be taken back, and it is then given again. -/
structure MovesIn (c : ByteReader) (source : String) (given : List UInt8) : Prop where
  read_inside : c.position.offset < source.utf8ByteSize →
    ∃ b, (Utf8.encode source.toList)[c.position.offset]? = some b ∧
      c.read = (some b,
        { c with position := c.position.afterByte b, previous := some c.position }) ∧
      c.read.2.unread = { c with previous := none }
  read_atEnd : c.position.offset = source.utf8ByteSize → c.read = (none, c)
  unread_kept : ∀ p, c.previous = some p →
    c.unread = { c with position := p, previous := none } ∧
      ∃ b, given.getLast? = some b ∧ c.unread.read = (some b, c)
  unread_empty : c.previous = none → c.unread = c
  unread_twice : c.unread.unread = c.unread

/-- What the reader shows: the byte that it would give, and the character that
starts there, if one does. -/
structure ShowsIn (c : ByteReader) (source : String) : Prop where
  byte?_eq : c.byte? = c.read.1
  exists_char?_iff : (∃ d, c.char? = some d) ↔
    c.position.offset < source.utf8ByteSize ∧ (String.Pos.Raw.mk c.position.offset).IsValid source
  starts : ∀ d, c.char? = some d →
    String.utf8EncodeChar d <+: (Utf8.encode source.toList).drop c.position.offset
  byte?_of_char? : ∀ d, c.char? = some d → c.byte? = (String.utf8EncodeChar d).head?

/-! ## Characters -/

/-- A reader shows a character between two characters, and at the start, but not
at the end. -/
theorem exists_char?_iff (c : ByteReader) : (∃ d, c.char? = some d) ↔
    c.position.offset < c.source.utf8ByteSize ∧
      (String.Pos.Raw.mk c.position.offset).IsValid c.source := by
  rw [← Utf8.exists_splitAt?_iff_isValid]
  simp only [char?, Utf8.charAt?_eq_some_iff, Utf8.splitAt?_eq_some_iff]
  constructor
  · rintro ⟨d, front, rest, hsource, hoffset⟩
    refine ⟨?_, front, d :: rest, hsource, hoffset⟩
    have := d.utf8Size_pos
    rw [Utf8.utf8ByteSize_eq_length, hsource, Utf8.length_append, Utf8.length_cons]
    omega
  · rintro ⟨hlt, front, rest, hsource, hoffset⟩
    cases rest with
    | nil =>
      rw [Utf8.utf8ByteSize_eq_length, hsource, List.append_nil, hoffset] at hlt
      exact absurd hlt (Nat.lt_irrefl _)
    | cons d rest => exact ⟨d, front, rest, hsource, hoffset⟩

/-- The bytes in front of a reader begin with those of the character that it
shows. -/
theorem encode_drop_of_char? {c : ByteReader} {d : Char} (h : c.char? = some d) :
    ∃ behind, (Utf8.encode c.source.toList).drop c.position.offset =
      String.utf8EncodeChar d ++ behind := by
  obtain ⟨front, rest, hsource, hoffset⟩ := Utf8.charAt?_eq_some_iff.1 h
  refine ⟨Utf8.encode rest, ?_⟩
  rw [hsource, ← hoffset, Utf8.encode_append, ← Utf8.length_encode, List.drop_left,
    Utf8.encode_cons]

theorem byte?_of_char? {c : ByteReader} {d : Char} (h : c.char? = some d) :
    c.byte? = (String.utf8EncodeChar d).head? := by
  obtain ⟨behind, hdrop⟩ := encode_drop_of_char? h
  obtain ⟨b, bs, hb⟩ := Utf8.exists_firstByte d
  rw [byte?, ← List.head?_drop, hdrop, hb]
  rfl

/-! ## One move -/

/-- What every move keeps of a reader that has given `given`.  The place behind
the last byte is the one that the kept place leads to, so the kept place and the
byte tell all that a step has changed. -/
structure Keeps (c : ByteReader) (source : String) (given : List UInt8) : Prop where
  source_eq : c.source = source
  position : c.position.TrueIn source
  previous : ∀ p, c.previous = some p → p.TrueIn source ∧
    ∃ b, given.getLast? = some b ∧ (Utf8.encode source.toList)[p.offset]? = some b ∧
      c.position = p.afterByte b

theorem keeps_ofString (source : String) : (ofString source).Keeps source [] := by
  refine ⟨rfl, rfl, ?_⟩
  intro p hp
  cases hp

variable {c : ByteReader} {source : String} {given : List UInt8}

theorem Keeps.read (h : c.Keeps source given) :
    c.read.2.Keeps source (given ++ c.read.1.toList) := by
  cases hb : c.byte? with
  | none =>
    rw [read_of_byte?_eq_none hb, Option.toList_none, List.append_nil]
    exact h
  | some b =>
    have hbyte : (Utf8.encode source.toList)[c.position.offset]? = some b := by
      rw [← h.source_eq]
      exact hb
    rw [read_of_byte?_eq_some hb]
    refine ⟨h.source_eq, h.position.afterByte hbyte, ?_⟩
    rintro _ ⟨⟩
    exact ⟨h.position, b, List.getLast?_concat, hbyte, rfl⟩

theorem Keeps.unread (h : c.Keeps source given) : c.unread.Keeps source given := by
  cases hp : c.previous with
  | none =>
    rw [unread_of_previous_eq_none hp]
    exact h
  | some p =>
    rw [unread_of_previous_eq_some hp]
    refine ⟨h.source_eq, (h.previous p hp).1, ?_⟩
    intro q hq
    cases hq

theorem Keeps.move (h : c.Keeps source given) (m : Move) :
    (c.move m).2.Keeps source (given ++ (c.move m).1.toList) := by
  cases m with
  | read => exact h.read
  | unread =>
    have hnone : given ++ (c.move .unread).1.toList = given := List.append_nil given
    rw [hnone]
    exact h.unread

/-! ## Whole runs -/

/-- The bytes among some answers, in order. -/
def bytesIn (answers : List (Option UInt8)) : List UInt8 :=
  answers.filterMap id

theorem bytesIn_cons (answer : Option UInt8) (answers : List (Option UInt8)) :
    bytesIn (answer :: answers) = answer.toList ++ bytesIn answers := by
  cases answer <;> rfl

theorem Keeps.moveAll (h : c.Keeps source given) (moves : List Move) :
    (c.moveAll moves).2.Keeps source (given ++ bytesIn (c.moveAll moves).1) := by
  induction moves generalizing c given with
  | nil =>
    have hnone : given ++ bytesIn (c.moveAll []).1 = given := List.append_nil given
    rw [hnone]
    exact h
  | cons m moves ih =>
    have hrest := ih (h.move m)
    dsimp only [ByteReader.moveAll]
    rw [bytesIn_cons, ← List.append_assoc]
    exact hrest

/-! ## What follows of a reader that was moved -/

theorem Keeps.placedIn (h : c.Keeps source given) : c.PlacedIn source := by
  refine ⟨h.source_eq, h.position.offset_le, h.position.toLocation_eq, ?_⟩
  intro p hp
  obtain ⟨htrue, b, -, -, hposition⟩ := h.previous p hp
  refine ⟨?_, htrue.toLocation_eq⟩
  rw [hposition, Position.offset_afterByte]

theorem Keeps.movesIn (h : c.Keeps source given) : c.MovesIn source given := by
  obtain ⟨rfl, -, hprevious⟩ := h
  refine ⟨?_, ?_, ?_, unread_of_previous_eq_none, unread_unread c⟩
  · intro hlt
    obtain ⟨b, hb⟩ : ∃ b, c.byte? = some b := by
      rw [← Option.ne_none_iff_exists', Ne, byte?_eq_none_iff]
      exact Nat.not_le_of_lt hlt
    exact ⟨b, hb, read_of_byte?_eq_some hb, unread_read hb⟩
  · intro hend
    exact read_of_byte?_eq_none ((byte?_eq_none_iff c).2 hend.ge)
  · intro p hp
    obtain ⟨-, b, hlast, hb, hposition⟩ := hprevious p hp
    exact ⟨unread_of_previous_eq_some hp, b, hlast, read_unread hp hposition hb⟩

/-- What a reader shows hangs on its place alone, so it holds wherever it is. -/
theorem showsIn (c : ByteReader) : c.ShowsIn c.source := by
  refine ⟨(fst_read c).symm, exists_char?_iff c, ?_, fun d hd => byte?_of_char? hd⟩
  intro d hd
  obtain ⟨behind, hdrop⟩ := encode_drop_of_char? hd
  rw [hdrop]
  exact List.prefix_append _ _

end ByteReader

/-! ## The law -/

/-- However a reader is moved, it is at the line and the column that the bytes
before it make.  It can take back the last byte that it gave, also over a line
feed and also after it found the end, and no byte before that one.  It shows a
character just where one starts. -/
theorem a_reader_is_true_to_its_script (source : String) (moves : List ByteReader.Move) :
    ∃ answers c, (ByteReader.ofString source).moveAll moves = (answers, c) ∧
      c.PlacedIn source ∧ c.MovesIn source (ByteReader.bytesIn answers) ∧ c.ShowsIn source := by
  have hkeeps := (ByteReader.keeps_ofString source).moveAll moves
  have hshows := ((ByteReader.ofString source).moveAll moves).2.showsIn
  rw [hkeeps.source_eq] at hshows
  exact ⟨_, _, rfl, hkeeps.placedIn, hkeeps.movesIn, hshows⟩

/-- The end is found behind a line feed, the line feed is taken back, and the
second time there is nothing to take back. -/
example :
    (ByteReader.ofString "a\n").moveAll [.read, .read, .read, .unread, .unread] =
      ([some 97, some 10, none, none, none],
        { source := "a\n", position := { line := 1, column := 2, offset := 1 },
          previous := none }) := by
  decide +kernel

end ImageScript
