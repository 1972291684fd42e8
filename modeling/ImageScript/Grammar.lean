-- The grammar of scripts, said without the lexer: a script is a row of
-- lexemes with gaps around them, and where no gap stands between two lexemes
-- the second must not run into the first.  A text that no lexeme begins is
-- faulty, in one of five ways.
import ImageScript.Failure
import ImageScript.Gap
import ImageScript.Lexeme

namespace ImageScript

/-! ## Layouts -/

/-- A lexeme with the gap in front of it. -/
structure Piece where
  gap : List Char
  kind : Kind
  text : List Char
deriving DecidableEq

/-- A whole script: its lexemes, each with the gap in front of it, and the gap
at the end. -/
structure Layout where
  pieces : List Piece
  final : List Char
deriving DecidableEq

namespace Layout

/-- The text of a layout. -/
def text (l : Layout) : List Char :=
  l.pieces.flatMap (fun p => p.gap ++ p.text) ++ l.final

/-- The second lexeme does not run into the first. -/
def Apart (p q : Piece) : Prop :=
  q.gap = [] → ∀ c ∈ q.text.head?, ¬ Extends p.text c

/-- No lexeme of a row runs into the one before it. -/
def AllApart : List Piece → Prop
  | p :: q :: ps => Apart p q ∧ AllApart (q :: ps)
  | _ => True

/-- The pieces are what they are said to be, and stand apart. -/
structure Valid (l : Layout) : Prop where
  gaps : ∀ p ∈ l.pieces, Gap p.gap
  lexemes : ∀ p ∈ l.pieces, Lexeme p.kind p.text
  final : FinalGap l.final
  apart : AllApart l.pieces

/-- The tokens of some pieces that start at a position, and the end of the
input behind a last gap. -/
def tokensFrom (p : Position) (final : List Char) : List Piece → List Token
  | [] => [{ kind := .endOfInput, start := p.after final, text := "" }]
  | q :: qs =>
    { kind := q.kind, start := p.after q.gap, text := String.ofList q.text }
      :: tokensFrom (p.after (q.gap ++ q.text)) final qs

/-- The tokens of a layout, each where its lexeme stands. -/
def tokens (l : Layout) : List Token :=
  tokensFrom .start l.final l.pieces

end Layout

/-! ## Faults -/

/-- The character begins no gap and no lexeme. -/
def StartsNothing (c : Char) : Prop :=
  isBlank c = false ∧ c ≠ '#' ∧ c ≠ '"' ∧ c.isDigit = false ∧ Word.isStart c = false ∧
    ∀ o : Operator, o.spelling ≠ [c]

/-- `Faulty before stretch after fault` says that no lexeme can be read from
the text `before ++ stretch ++ after`, for the given reason, and that the
fault lies in `stretch`. -/
inductive Faulty : List Char → List Char → List Char → Fault → Prop
  | unexpectedCharacter {c : Char} {after : List Char} :
      StartsNothing c → Faulty [] [c] after (.unexpectedCharacter c)
  | loneHash {after : List Char} :
      after.head? ≠ some '#' → Faulty [] ['#'] after .loneHash
  | illegalInString {body after : List Char} {c : Char} :
      body.all isStringChar = true → isStringChar c = false → c ≠ '"' →
      Faulty ('"' :: body) [c] after (.illegalInString c)
  | unterminatedString {body : List Char} :
      body.all isStringChar = true → Faulty [] ('"' :: body) [] .unterminatedString
  | numberTooLarge {d : Char} {ds after : List Char} :
      isLeadingDigit d = true → ds.all Char.isDigit = true →
      (∀ c ∈ after.head?, c.isDigit = false) → Decimal.maxInt < Decimal.value (d :: ds) →
      Faulty [] (d :: ds) after (.numberTooLarge (String.ofList (d :: ds)))

end ImageScript
