-- Excerpts: the lines of a script around a stretch of it, cut into numbered
-- rows.  To find the lines around a stretch, a lone carriage return ends a
-- line too; a row ends at line feeds only.
import ImageScript.Utf8

namespace ImageScript

/-! ## Lines -/

/-- Cuts a text behind every character that ends a line.  Whether one does can
hang on the character that follows it. -/
def splitAfter (ends : Char → Option Char → Bool) : List Char → List (List Char)
  | [] => []
  | c :: cs =>
    if ends c cs.head? then
      [c] :: splitAfter ends cs
    else
      match splitAfter ends cs with
      | [] => [[c]]
      | piece :: pieces => (c :: piece) :: pieces

/-- Cutting loses nothing. -/
@[simp] theorem flatten_splitAfter (ends : Char → Option Char → Bool) (cs : List Char) :
    (splitAfter ends cs).flatten = cs := by
  fun_induction splitAfter ends cs <;> simp_all

/-- No piece is empty. -/
theorem ne_nil_of_mem_splitAfter {ends : Char → Option Char → Bool} {cs piece : List Char}
    (h : piece ∈ splitAfter ends cs) : piece ≠ [] := by
  fun_induction splitAfter ends cs generalizing piece <;> simp_all
  · rcases h with rfl | h <;> simp_all
  · rcases h with rfl | h <;> simp_all

theorem splitAfter_ne_nil {ends : Char → Option Char → Bool} {cs : List Char} (h : cs ≠ []) :
    splitAfter ends cs ≠ [] := by
  intro hnil
  have hflat := flatten_splitAfter ends cs
  rw [hnil] at hflat
  exact h hflat.symm

/-- Where one part of a text ends, the text is cut, and the parts are cut each on
its own. -/
theorem splitAfter_append {ends : Char → Option Char → Bool} {a b : List Char}
    (ha : ∀ c ∈ a.getLast?, ends c b.head? = true ∧ ends c none = true) :
    splitAfter ends (a ++ b) = splitAfter ends a ++ splitAfter ends b := by
  induction a with
  | nil => simp [splitAfter]
  | cons c a ih =>
    cases a with
    | nil =>
      obtain ⟨h, h'⟩ := ha c rfl
      simp [splitAfter, h, h']
    | cons d a =>
      have hrest := ih (by simpa using ha)
      rw [List.cons_append, splitAfter, splitAfter, hrest]
      cases hs : splitAfter ends (d :: a) with
      | nil => exact absurd hs (splitAfter_ne_nil (List.cons_ne_nil d a))
      | cons piece pieces => by_cases hc : ends c (some d) = true <;> simp [hc]

/-- What holds no end belongs to the piece that follows it. -/
theorem exists_splitAfter_append {ends : Char → Option Char → Bool} {a : List Char}
    (ha : ∀ c ∈ a, ∀ next, ends c next = false) (c : Char) (b : List Char) :
    ∃ piece pieces, splitAfter ends (c :: b) = (c :: piece) :: pieces ∧
      splitAfter ends (a ++ c :: b) = (a ++ c :: piece) :: pieces := by
  obtain ⟨piece, pieces, hb⟩ : ∃ piece pieces,
      splitAfter ends (c :: b) = (c :: piece) :: pieces := by
    rw [splitAfter]
    split
    · exact ⟨[], _, rfl⟩
    · split
      · exact ⟨[], [], rfl⟩
      · exact ⟨_, _, rfl⟩
  refine ⟨piece, pieces, hb, ?_⟩
  induction a with
  | nil => exact hb
  | cons d a ih =>
    rw [List.forall_mem_cons] at ha
    rw [List.cons_append, splitAfter, ih ha.2]
    simp [ha.1]

/-- A line ends with a line feed, or with a carriage return that no line feed
follows. -/
def endsLine (c : Char) (next : Option Char) : Bool :=
  c = '\n' || (c = '\r' && next ≠ some '\n')

/-- A row ends with a line feed. -/
def endsRow (c : Char) (_ : Option Char) : Bool :=
  c = '\n'

/-- The lines of a text, each with the characters that end it. -/
def lines (cs : List Char) : List (List Char) :=
  splitAfter endsLine cs

@[simp] theorem flatten_lines (cs : List Char) : (lines cs).flatten = cs :=
  flatten_splitAfter endsLine cs

/-- A character that belongs to the end of a line. -/
def isLineEnd (c : Char) : Bool :=
  c = '\n' || c = '\r'

/-- A line without the characters that end it. -/
def lineBody (line : List Char) : List Char :=
  line.takeWhile fun c => !isLineEnd c

/-- Finds the piece that holds the byte at `offset`: its index, and the number
of bytes of the piece that come before. -/
def locate : Nat → List (List Char) → Nat × Nat
  | offset, [] => (0, offset)
  | offset, piece :: pieces =>
    if offset < Utf8.length piece then
      (0, offset)
    else
      let (index, inside) := locate (offset - Utf8.length piece) pieces
      (index + 1, inside)

/-! ## Excerpts -/

/-- Some whole lines of a script: how many lines and how many bytes come before
them, and their text. -/
structure Excerpt where
  linesBefore : Nat
  start : Nat
  text : List Char
deriving DecidableEq

/-- How many lines an excerpt shows before a stretch and after it. -/
def contextLines : Nat := 3

/-- The excerpt around the `length` bytes from `offset` on.  It takes one line
more if the stretch reaches into the end of its last line. -/
def Excerpt.around (offset length : Nat) (source : List Char) : Excerpt :=
  let all := lines source
  let (first, _) := locate offset all
  let (last, inside) := locate (offset + length - 1) all
  let atLineEnd := Utf8.length (lineBody (all.getD last [])) ≤ inside
  let stop := last + 1 + contextLines + if atLineEnd then 1 else 0
  let skipped := first - contextLines
  { linesBefore := skipped
    start := Utf8.length (all.take skipped).flatten
    text := ((all.take stop).drop skipped).flatten }

/-! ## Rows -/

/-- A row of an excerpt: its number, the bytes of the script that it covers
with its end, and what is shown of it. -/
structure Row where
  number : Nat
  start : Nat
  length : Nat
  content : List Char
deriving DecidableEq

/-- What is shown of a row: all but a line feed at its end, and a carriage
return before that. -/
def rowContent (piece : List Char) : List Char :=
  if piece.getLast? = some '\n' then
    let body := piece.dropLast
    if body.getLast? = some '\r' then body.dropLast else body
  else
    piece

/-- The row of a piece that starts at `start` and has `number` lines before it.
A piece that ends in a carriage return is not counted. -/
def Row.ofPiece (number start : Nat) (piece : List Char) : Row where
  number := if piece.getLast? = some '\r' then number else number + 1
  start := start
  length := Utf8.length piece
  content := rowContent piece

/-- The rows of some pieces, the first of them at `start`. -/
def numberRows (number start : Nat) : List (List Char) → List Row
  | [] => []
  | piece :: pieces =>
    Row.ofPiece number start piece
      :: numberRows (number + 1) (start + Utf8.length piece) pieces

/-- The rows of an excerpt. -/
def Excerpt.rows (e : Excerpt) : List Row :=
  numberRows e.linesBefore e.start (splitAfter endsRow e.text)

/-- The row holds the byte at `offset`. -/
def Row.holds (r : Row) (offset : Nat) : Bool :=
  r.start ≤ offset && offset < r.start + r.length

end ImageScript
