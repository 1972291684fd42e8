-- Reading a table back.  Locations and names hold no space, so the widths of
-- the two columns can be found in the rows; from then on every cell has its
-- place, and what follows the second column is the text.
import ImageScript.Excerpt
import ImageScript.Table

namespace ImageScript

/-! ## Cells -/

/-- The location that a text spells. -/
def Location.ofText? (text : List Char) : Option Location := do
  let line ← Decimal.natural? (text.takeWhile (· ≠ ':'))
  let column ← Decimal.natural? ((text.dropWhile (· ≠ ':')).drop 1)
  return { line, column }

namespace Table

/-- What the table says of a token. -/
structure Entry where
  place : Location
  kind : Kind
  text : String
deriving DecidableEq

def Entry.ofToken (t : Token) : Entry where
  place := t.start.toLocation
  kind := t.kind
  text := t.text

/-! ## Rows -/

/-- Reads a row, given the widths of the first two columns. -/
def readRow (placeWidth nameWidth : Nat) (row : List Char) : Option Entry := do
  let nameStart := placeWidth + separator.length
  let textStart := nameStart + nameWidth + separator.length
  let place ← Location.ofText? ((row.take placeWidth).dropWhile (· = ' '))
  let kind ← Kind.ofName?
    (String.ofList (((row.drop nameStart).take nameWidth).takeWhile (· ≠ ' ')))
  return { place, kind, text := String.ofList (row.drop textStart) }

/-- The width of the first column: a row has spaces first, and then the location
up to the next space. -/
def placeWidthOf (row : List Char) : Nat :=
  (row.takeWhile (· = ' ')).length + ((row.dropWhile (· = ' ')).takeWhile (· ≠ ' ')).length

/-! ## Tables -/

/-- The rows of a text, each without the line feed that ends it. -/
def rowsOf (cs : List Char) : List (List Char) :=
  (splitAfter endsRow cs).map List.dropLast

/-- Reads a table.  The last row ends with its second column, as the end of the
input has no text. -/
def read (table : String) : Option (List Entry) :=
  let rows := rowsOf table.toList
  let placeWidth := placeWidthOf (rows.headD [])
  let nameWidth := (rows.getLastD []).length - placeWidth - 2 * separator.length
  rows.mapM (readRow placeWidth nameWidth)

end Table

end ImageScript
