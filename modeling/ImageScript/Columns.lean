-- The columns that characters take when a terminal shows them.  A tab runs to
-- the next tab stop, and the characters of an escape sequence take none.
import ImageScript.Unicode.Width

namespace ImageScript

/-! ## The pen of a terminal -/

/-- Where the next character of a row goes, and whether it belongs to an escape
sequence. -/
structure Pen where
  column : Nat
  escaping : Bool
deriving DecidableEq

namespace Pen

/-- The pen at the start of a row. -/
def home : Pen := { column := 0, escaping := false }

/-- The distance of tab stops. -/
def tabStop : Nat := 4

/-- The character that begins an escape sequence. -/
def escape : Char := '\x1b'

/-- The columns that a character takes. -/
def width (p : Pen) (c : Char) : Nat :=
  if p.escaping || c = escape then 0
  else if c = '\t' then tabStop - p.column % tabStop
  else Unicode.width c

/-- The pen behind a character.  An escape sequence ends with the letter m. -/
def move (p : Pen) (c : Char) : Pen where
  column := p.column + p.width c
  escaping := if p.escaping then c ≠ 'm' else c = escape

/-- A row as it is shown, with spaces in place of tabs. -/
def expandTabs (p : Pen) : List Char → List Char
  | [] => []
  | c :: cs =>
    (if c = '\t' then List.replicate (p.width c) ' ' else [c]) ++ (p.move c).expandTabs cs

/-- The column that is reached behind the first `bytes` bytes of a row.  What
lies past the end of the row is one column past it. -/
def columnAfter (p : Pen) : Nat → List Char → Nat
  | 0, _ => p.column
  | _ + 1, [] => p.column + 1
  | bytes + 1, c :: cs => (p.move c).columnAfter (bytes + 1 - c.utf8Size) cs

end Pen

end ImageScript
