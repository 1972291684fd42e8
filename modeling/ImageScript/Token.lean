-- Tokens: a kind, the place where the token starts, and the text it is
-- spelled with.  Numbers and strings have a value, which is read off the text.
import ImageScript.Decimal
import ImageScript.Kind
import ImageScript.Position

namespace ImageScript

/-! ## Spans -/

/-- A stretch of a script, in bytes. -/
structure Span where
  offset : Nat
  length : Nat
deriving DecidableEq

/-- The offset at which a span is over. -/
def Span.stop (s : Span) : Nat :=
  s.offset + s.length

/-! ## Tokens -/

/-- A classified piece of a script. -/
structure Token where
  kind : Kind
  start : Position
  text : String
deriving DecidableEq

namespace Token

/-- The number of bytes of a token. -/
def length (t : Token) : Nat :=
  t.text.utf8ByteSize

/-- The stretch of the script that a token covers. -/
def span (t : Token) : Span :=
  ⟨t.start.offset, t.length⟩

/-- The token that covers `length` bytes of a script from `start` on.  There is
none if the script ends before, or if one of the two ends lies inside a
character. -/
def cut? (kind : Kind) (start : Position) (length : Nat) (source : String) : Option Token :=
  (Utf8.slice? start.offset length source.toList).map fun text =>
    { kind, start, text := String.ofList text }

/-- A token as one line of text: its kind, its text and its location. -/
def describe (t : Token) : String :=
  t.kind.name ++ "(" ++ t.text ++ ") at " ++ t.start.text

/-! ## Values -/

/-- A text without the double quotes around it. -/
def unquoted? : List Char → Option (List Char)
  | '"' :: rest => if rest.getLast? = some '"' then some rest.dropLast else none
  | _ => none

/-- The value of a number literal. -/
def number? (t : Token) : Option Int :=
  if t.kind = .literal .number then Decimal.integer? t.text.toList else none

/-- The value of a string literal: what stands between its quotes. -/
def contents? (t : Token) : Option String :=
  if t.kind = .literal .string then (unquoted? t.text.toList).map String.ofList else none

end Token

end ImageScript
