-- A byte reader walks over the bytes of a script and can take back its last
-- step.  It knows its position at every byte, so it may stand inside a
-- character; there it still shows a byte, but no character.
import ImageScript.Position

namespace ImageScript

/-! ## The reader -/

/-- A place in a script.  `previous` is where the last step began, until that
step is taken back. -/
structure ByteReader where
  source : String
  position : Position
  previous : Option Position
deriving DecidableEq

namespace ByteReader

/-- A reader at the start of a script. -/
def ofString (source : String) : ByteReader :=
  { source, position := .start, previous := none }

/-- The byte at the reader; none at the end. -/
def byte? (c : ByteReader) : Option UInt8 :=
  (Utf8.encode c.source.toList)[c.position.offset]?

/-- The character that starts at the reader; none at the end and inside a
character. -/
def char? (c : ByteReader) : Option Char :=
  Utf8.charAt? c.position.offset c.source.toList

/-- Steps over one byte and gives it.  At the end nothing happens, and the
step before can still be taken back. -/
def read (c : ByteReader) : Option UInt8 × ByteReader :=
  match c.byte? with
  | none => (none, c)
  | some b => (some b, { c with position := c.position.afterByte b, previous := some c.position })

/-- Takes back the last step.  A second step cannot be taken back. -/
def unread (c : ByteReader) : ByteReader :=
  match c.previous with
  | none => c
  | some p => { c with position := p, previous := none }

/-- The two ways to move a reader. -/
inductive Move where
  | read
  | unread
deriving DecidableEq

/-- Moves a reader once.  Only a read answers with a byte. -/
def move (c : ByteReader) : Move → Option UInt8 × ByteReader
  | .read => c.read
  | .unread => (none, c.unread)

/-- Moves a reader again and again, and gives every answer. -/
def moveAll (c : ByteReader) : List Move → List (Option UInt8) × ByteReader
  | [] => ([], c)
  | m :: ms =>
    let (answer, c') := c.move m
    let (answers, last) := c'.moveAll ms
    (answer :: answers, last)

/-! ## Small laws -/

theorem byte?_eq_none_iff (c : ByteReader) :
    c.byte? = none ↔ c.source.utf8ByteSize ≤ c.position.offset := by
  rw [byte?, List.getElem?_eq_none_iff, Utf8.length_encode, ← Utf8.utf8ByteSize_eq_length]

theorem read_of_byte?_eq_none {c : ByteReader} (h : c.byte? = none) : c.read = (none, c) := by
  simp [read, h]

theorem read_of_byte?_eq_some {c : ByteReader} {b : UInt8} (h : c.byte? = some b) :
    c.read =
      (some b, { c with position := c.position.afterByte b, previous := some c.position }) := by
  simp [read, h]

theorem fst_read (c : ByteReader) : c.read.1 = c.byte? := by
  cases h : c.byte? with
  | none => rw [read_of_byte?_eq_none h]
  | some b => rw [read_of_byte?_eq_some h]

theorem unread_of_previous_eq_none {c : ByteReader} (h : c.previous = none) : c.unread = c := by
  simp [unread, h]

theorem unread_of_previous_eq_some {c : ByteReader} {p : Position} (h : c.previous = some p) :
    c.unread = { c with position := p, previous := none } := by
  simp [unread, h]

theorem unread_read {c : ByteReader} {b : UInt8} (h : c.byte? = some b) :
    c.read.2.unread = { c with previous := none } := by
  simp [read, unread, h]

/-- A byte that was taken back is given again, and nothing tells that it was ever
taken back. -/
theorem read_unread {c : ByteReader} {p : Position} {b : UInt8} (hprevious : c.previous = some p)
    (hposition : c.position = p.afterByte b)
    (hb : (Utf8.encode c.source.toList)[p.offset]? = some b) : c.unread.read = (some b, c) := by
  have hbyte : ({ c with position := p, previous := none } : ByteReader).byte? = some b := hb
  rw [unread_of_previous_eq_some hprevious, read_of_byte?_eq_some hbyte, ← hposition, ← hprevious]

@[simp] theorem unread_unread (c : ByteReader) : c.unread.unread = c.unread := by
  cases h : c.previous <;> simp [unread, h]

@[simp] theorem source_read (c : ByteReader) : c.read.2.source = c.source := by
  unfold read
  split <;> rfl

end ByteReader

end ImageScript
