-- The lexer hands out the tokens of a script one by one.  It knows its position
-- and the text that is left, nothing else, so what it says next depends on
-- nothing that it said before.  After a failure it can be asked to go on; its
-- stream ends with the first failure.
import ImageScript.Failure
import ImageScript.Gap
import ImageScript.Lexeme

namespace ImageScript

/-! ## The lexer -/

/-- Results can be compared if what they hold can. -/
instance decidableEqExcept {ε α : Type} [DecidableEq ε] [DecidableEq α] :
    DecidableEq (Except ε α)
  | .ok a, .ok b => decidable_of_iff (a = b) (by simp)
  | .error a, .error b => decidable_of_iff (a = b) (by simp)
  | .ok _, .error _ => isFalse (by simp)
  | .error _, .ok _ => isFalse (by simp)

/-- A token, or the reason why there is none. -/
abbrev Outcome := Except Failure Token

/-- The outcome is the last of a stream: a failure or the end of the input. -/
def Outcome.isLast : Outcome → Bool
  | .ok t => t.kind = .endOfInput
  | .error _ => true

theorem Outcome.isLast_ok {t : Token} (h : t.kind ≠ .endOfInput) :
    isLast (.ok t) = false := by
  unfold isLast
  exact decide_eq_false h

/-- What a lexer has before it. -/
inductive Ahead where
  /-- The text that is left. -/
  | text (cs : List Char)
  /-- The rest of a character whose first byte was taken for the second hash
  of a comment.  No text can be read from there. -/
  | brokenCharacter
deriving DecidableEq

/-- A lexer at some place of a script.  `finished` is set once its stream is
over. -/
structure Lexer where
  position : Position
  ahead : Ahead
  finished : Bool
deriving DecidableEq

namespace Lexer

/-- A lexer at the start of a script. -/
def ofString (source : String) : Lexer :=
  { position := .start, ahead := .text source.toList, finished := false }

/-- The lexer at another place. -/
def moveTo (s : Lexer) (p : Position) (cs : List Char) : Lexer :=
  { s with position := p, ahead := .text cs }

/-- The lexer one byte on from a place.  A line feed takes it to the next
line, and a character of more than one byte breaks. -/
def moveByte (s : Lexer) (p : Position) : List Char → Lexer
  | [] => s.moveTo p []
  | c :: cs =>
    if c.utf8Size = 1 then s.moveTo (p.afterChar c) cs
    else
      let q : Position := { line := p.line, column := p.column + 1, offset := p.offset + 1 }
      { s with position := q, ahead := .brokenCharacter }

/-- What stands for a character that cannot be read. -/
def replacement : Char := '\uFFFD'

/-- What is found at the front of a text that starts at `p`, and where the
lexer goes on.  An unexpected character is not passed over, and neither is an
illegal one in a string. -/
def takeFront (s : Lexer) (p : Position) : Front → Outcome × Lexer
  | .nothing =>
    (.ok { kind := .endOfInput, start := p, text := "" }, s.moveTo p [])
  | .lexeme kind text rest =>
    (.ok { kind, start := p, text := String.ofList text }, s.moveTo (p.after text) rest)
  | .loneHash rest =>
    (.error { fault := .loneHash, start := p, length := 1 },
      s.moveByte (p.afterChar '#') rest)
  | .illegalInString body c rest =>
    let q := p.after ('"' :: body)
    (.error { fault := .illegalInString c, start := q, length := c.utf8Size },
      s.moveTo q (c :: rest))
  | .unterminatedString body =>
    let text := '"' :: body
    (.error { fault := .unterminatedString, start := p, length := Utf8.length text },
      s.moveTo (p.after text) [])
  | .tooLarge digits rest =>
    (.error { fault := .numberTooLarge (String.ofList digits), start := p,
              length := Utf8.length digits },
      s.moveTo (p.after digits) rest)
  | .unexpected c rest =>
    (.error { fault := .unexpectedCharacter c, start := p, length := c.utf8Size },
      s.moveTo p (c :: rest))

/-- The next token, or the next failure.  At the end of the input the answer is
the end, however often it is asked for. -/
def read (s : Lexer) : Outcome × Lexer :=
  match s.ahead with
  | .text cs =>
    let (gap, rest) := splitGap .blanks cs
    s.takeFront (s.position.after gap) (Front.ofText rest)
  | .brokenCharacter =>
    (.error { fault := .unexpectedCharacter replacement, start := s.position,
              length := replacement.utf8Size }, s)

/-! ## The stream of a lexer -/

/-- The next outcome of the stream; none once the stream is over. -/
def next? (s : Lexer) : Option Outcome × Lexer :=
  if s.finished then
    (none, s)
  else
    let (outcome, s') := s.read
    (some outcome, { s' with finished := outcome.isLast })

/-- The two ways to ask a lexer for more. -/
inductive Pull where
  /-- For the next token, whether or not the stream is over. -/
  | token
  /-- For the next outcome of the stream. -/
  | item
deriving DecidableEq

/-- Asks a lexer once. -/
def pull (s : Lexer) : Pull → Option Outcome × Lexer
  | .token =>
    let (outcome, s') := s.read
    (some outcome, s')
  | .item => s.next?

/-- Asks a lexer again and again, and gives every answer. -/
def pullAll (s : Lexer) : List Pull → List (Option Outcome) × Lexer
  | [] => ([], s)
  | p :: ps =>
    let (answer, s') := s.pull p
    let (answers, last) := s'.pullAll ps
    (answer :: answers, last)

/-- The number of characters that a lexer has before it. -/
def remaining (s : Lexer) : Nat :=
  match s.ahead with
  | .text cs => cs.length
  | .brokenCharacter => 0

theorem read_of_text {s : Lexer} {cs : List Char} (h : s.ahead = .text cs) :
    s.read = s.takeFront (s.position.after (splitGap .blanks cs).1)
      (Front.ofText (splitGap .blanks cs).2) := by
  simp [read, h]

theorem read_of_brokenCharacter {s : Lexer} (h : s.ahead = .brokenCharacter) :
    s.read =
      (.error { fault := .unexpectedCharacter replacement, start := s.position,
                length := replacement.utf8Size }, s) := by
  simp [read, h]

/-- A call reads at the lexer's place, or finds its stream over and stays. -/
theorem pull_cases (s : Lexer) (pull : Pull) :
    (s.pull pull).1 = some s.read.1 ∧
        (∃ finished, (s.pull pull).2 = { s.read.2 with finished }) ∨
      s.pull pull = (none, s) := by
  cases pull with
  | token => exact Or.inl ⟨rfl, _, rfl⟩
  | item =>
    dsimp only [Lexer.pull, next?]
    split
    · exact Or.inr rfl
    · exact Or.inl ⟨rfl, _, rfl⟩

/-- A token other than the end leaves less to read. -/
theorem remaining_read_lt {s : Lexer} (hl : s.read.1.isLast = false) :
    s.read.2.remaining < s.remaining := by
  cases ha : s.ahead with
  | brokenCharacter => simp [read_of_brokenCharacter ha, Outcome.isLast] at hl
  | text cs =>
    rw [read_of_text ha] at hl ⊢
    cases hf : Front.ofText (splitGap .blanks cs).2 with
    | lexeme kind text rest =>
      have := Front.length_rest_lt hf
      have := length_splitGap_le .blanks cs
      simp only [takeFront, moveTo, remaining, ha]
      omega
    | _ => simp [hf, takeFront, Outcome.isLast] at hl

/-- All that the stream still holds, and the lexer at its end. -/
def rest (s : Lexer) : List Outcome × Lexer :=
  if s.finished then
    ([], s)
  else
    let step := s.read
    if _hl : step.1.isLast then
      ([step.1], { step.2 with finished := true })
    else
      let (outcomes, last) := rest step.2
      (step.1 :: outcomes, last)
termination_by s.remaining
decreasing_by exact remaining_read_lt (by simpa using _hl)

end Lexer

/-! ## Whole scripts -/

/-- The tokens of a stream, or the failure that it ends with. -/
def collect : List Outcome → Except Failure (List Token)
  | [] => .ok []
  | .ok t :: outcomes => (collect outcomes).map (t :: ·)
  | .error e :: _ => .error e

/-- The tokens of a script, the end of the input included, or its first
failure. -/
def lex (source : String) : Except Failure (List Token) :=
  collect (Lexer.ofString source).rest.1

end ImageScript
