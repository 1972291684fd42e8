-- The report of a failure: where it is, what is wrong in words, and the lines
-- around it with a mark under the stretch at fault.
import ImageScript.Columns
import ImageScript.Excerpt
import ImageScript.Failure
import ImageScript.Paragraph

namespace ImageScript.Report

/-! ## The message -/

/-- The width that a message is broken to. -/
def messageWidth : Nat := 74

/-- A message in lines, the first of them marked with a cross. -/
def messageLines (message : String) : List (List Char) :=
  match breakLines messageWidth message.toList with
  | [] => []
  | line :: lines =>
    ("  × ".toList ++ line) :: lines.map fun l => "  │ ".toList ++ l

/-! ## The mark -/

/-- Some spaces in a row. -/
def spaces (n : Nat) : List Char :=
  List.replicate n ' '

/-- A horizontal rule. -/
def rule (n : Nat) : List Char :=
  List.replicate n '─'

/-- The columns of a mark: where it begins, where the pointer goes down, and
where it is over. -/
structure Mark where
  start : Nat
  pointer : Nat
  stop : Nat
deriving DecidableEq

/-- The mark under the part of a row that a span covers.  It is at least one
column wide, and its pointer is in the middle. -/
def Mark.under (row : Row) (span : Span) : Mark :=
  let start := Pen.home.columnAfter (span.offset - row.start) row.content
  let stop := max (Pen.home.columnAfter (span.stop - row.start) row.content) (start + 1)
  { start, pointer := (start + stop) / 2, stop }

/-- The two lines that draw a mark. -/
def Mark.lines (margin : List Char) (m : Mark) : List (List Char) :=
  [margin ++ spaces m.start ++ rule (m.pointer - m.start) ++ ['┬']
      ++ rule (m.stop - m.pointer - 1),
    margin ++ spaces m.pointer ++ "╰── ".toList ++ Failure.label.toList]

/-! ## The excerpt -/

/-- The location that heads an excerpt: the line that holds a byte, and the
column of the byte in it.  Lines are those of the excerpt. -/
def heading (offset : Nat) (source : List Char) : Location :=
  let (index, inside) := locate offset (lines source)
  { line := index + 1, column := inside + 1 }

/-- A number as wide as the widest. -/
def padNumber (width n : Nat) : List Char :=
  (Nat.toDigits 10 n).leftpad width ' '

/-- A row as it is shown, with its number in front. -/
def shownRow (width : Nat) (row : Row) : List Char :=
  ' ' :: padNumber width row.number ++ " │ ".toList ++ Pen.home.expandTabs row.content

/-- The mark of a row, with the margin that the number leaves. -/
def markLines (width : Nat) (span : Span) (row : Row) : List (List Char) :=
  (Mark.under row span).lines (' ' :: spaces width ++ " · ".toList)

/-- Some of the bytes of a span are in the row. -/
def touches (span : Span) (row : Row) : Bool :=
  row.start < span.stop && span.offset < row.start + row.length

/-- The lines of a row: the row itself, and a mark if the span touches it. -/
def rowLines (width : Nat) (span : Span) (row : Row) : List (List Char) :=
  if touches span row then shownRow width row :: markLines width span row
  else [shownRow width row]

/-- The width of the numbers of some rows. -/
def numberWidth (rows : List Row) : Nat :=
  match rows.getLast? with
  | some row => (Nat.toDigits 10 row.number).length
  | none => 0

/-- Some lines in a frame that has a title. -/
def frame (width : Nat) (title : List Char) (lines : List (List Char)) : List (List Char) :=
  [spaces (width + 2) ++ "╭─".toList ++ title] ++ lines
    ++ [spaces (width + 2) ++ "╰────".toList]

/-- What heads an excerpt: a location if there is more than one row. -/
def title (span : Span) (source : List Char) : List Char :=
  if 1 < (Excerpt.around span.offset span.length source).rows.length then
    '[' :: (heading span.offset source).text.toList ++ [']']
  else
    rule 3

/-- The lines of the frame with an excerpt in it. -/
def frameLines (span : Span) (source : List Char) : List (List Char) :=
  let rows := (Excerpt.around span.offset span.length source).rows
  let width := numberWidth rows
  frame width (title span source) (rows.flatMap (rowLines width span))

/-! ## The report -/

/-- The report of a failure in a script. -/
def text (f : Failure) (source : String) : String :=
  "[" ++ f.start.text ++ "] " ++ Failure.code ++ "\n\n"
    ++ String.ofList
      ((messageLines f.message ++ frameLines f.span source.toList).flatMap (· ++ ['\n']))

end ImageScript.Report
