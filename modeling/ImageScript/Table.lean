-- The table of a script's tokens: a line for each, with its location, the
-- name of its kind and its text, in aligned columns.
import ImageScript.Token

namespace ImageScript.Table

/-! ## Cells and widths -/

/-- The location of a token as it stands in the table. -/
def place (t : Token) : List Char :=
  t.start.text.toList

/-- The name of a token's kind as it stands in the table. -/
def name (t : Token) : List Char :=
  t.kind.name.toList

/-- The width of a column: that of its longest cell. -/
def columnWidth (cell : Token → List Char) (tokens : List Token) : Nat :=
  (tokens.map fun t => (cell t).length).foldr max 0

/-- Every cell fits into its column. -/
theorem length_le_columnWidth {cell : Token → List Char} {tokens : List Token} {t : Token}
    (h : t ∈ tokens) : (cell t).length ≤ columnWidth cell tokens := by
  induction tokens with
  | nil => cases h
  | cons u tokens ih =>
    rcases List.mem_cons.1 h with rfl | h
    · exact Nat.le_max_left _ _
    · exact Nat.le_trans (ih h) (Nat.le_max_right _ _)

/-! ## Lines -/

/-- What stands between two columns. -/
def separator : List Char := [' ', ' ']

/-- A line of the table.  Locations end and names begin at the same place in
all lines; nothing is filled up behind the text. -/
def line (placeWidth nameWidth : Nat) (t : Token) : List Char :=
  (place t).leftpad placeWidth ' ' ++ separator ++ (name t).rightpad nameWidth ' '
    ++ separator ++ t.text.toList ++ ['\n']

/-- The table of some tokens. -/
def text (tokens : List Token) : String :=
  String.ofList
    (tokens.flatMap (line (columnWidth place tokens) (columnWidth name tokens)))

end ImageScript.Table
