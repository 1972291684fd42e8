-- The lexer as a machine that sees one byte at a time.  It marks where a token
-- starts, steps over bytes with a reader, and takes back no more than the last
-- of them.  A token is cut out of the script between the mark and the reader;
-- where no cut can be made the machine breaks down and gives no answer.
import ImageScript.ByteReader
import ImageScript.Lexer

namespace ImageScript

/-! ## What a byte does -/

/-- The characters that make an operator longer, each with the operator that
comes of it. -/
def Operator.continuations : Operator → List (Char × Operator)
  | leftBracket => [(']', box)]
  | minus => [('>', arrow)]
  | times => [('*', power)]
  | bitAnd => [('&', and)]
  | bitOr => [('|', or)]
  | less => [('=', lessOrEqual), (':', blockOpen)]
  | greater => [('=', greaterOrEqual)]
  | assign => [('=', equal)]
  | colon => [('>', blockClose)]
  | _ => []

/-- What the machine has begun to read. -/
inductive Pending where
  | nothing | hash | comment
  | operator (o : Operator)
  | word | number | string
deriving DecidableEq

/-- What the machine does about a byte. -/
inductive Reaction where
  /-- The byte is taken, and more is expected. -/
  | goOn (p : Pending)
  /-- The byte ends a stretch of a gap: a token can only start behind it. -/
  | skip
  /-- The byte is the last of a token. -/
  | complete (k : Kind)
  | operatorBefore (o : Operator) | wordBefore | numberBefore
  | loneHash | unexpected | illegalInString
deriving DecidableEq

/-- The byte is given as a character below 256.  A byte of 128 or more is part
of a longer character, and no table below holds it. -/
def Pending.reaction : Pending → Char → Reaction
  | .nothing, c =>
    if isBlank c then .skip
    else if c = '#' then .goOn .hash
    else if c = '"' then .goOn .string
    else if c = '0' then .complete (.literal .number)
    else if c.isDigit then .goOn .number
    else if Word.isStart c then .goOn .word
    else match Operator.ofSpelling? [c] with
      | some o =>
        if o.continuations.isEmpty then .complete (.operator o) else .goOn (.operator o)
      | none => .unexpected
  | .hash, c => if c = '#' then .goOn .comment else .loneHash
  | .comment, c => if c = '\n' then .skip else .goOn .comment
  | .operator o, c =>
    match o.continuations.lookup c with
    | some longer => .complete (.operator longer)
    | none => .operatorBefore o
  | .word, c => if Word.isPart c then .goOn .word else .wordBefore
  | .number, c => if c.isDigit then .goOn .number else .numberBefore
  | .string, c =>
    if c = '"' then .complete (.literal .string)
    else if ' ' ≤ c && c ≤ '~' then .goOn .string
    else .illegalInString

/-! ## The machine -/

/-- A reader, and the place where the token that is being read starts. -/
structure Machine where
  reader : ByteReader
  mark : Position
  finished : Bool
deriving DecidableEq

namespace Machine

/-- A machine at the start of a script. -/
def ofString (source : String) : Machine :=
  { reader := .ofString source, mark := .start, finished := false }

/-- The next token starts where the reader is. -/
def marked (m : Machine) : Machine :=
  { m with mark := m.reader.position }

/-- One byte on. -/
def advance (m : Machine) : Machine :=
  { m with reader := m.reader.read.2 }

/-- One byte back. -/
def back (m : Machine) : Machine :=
  { m with reader := m.reader.unread }

/-! ### Answers -/

/-- The token between the mark and the reader.  There is none if the mark is
behind the reader, or if the script cannot be cut at one of the two. -/
def cut? (m : Machine) (kind : Kind) : Option Token :=
  if m.mark.offset ≤ m.reader.position.offset then
    Token.cut? kind m.mark (m.reader.position.offset - m.mark.offset) m.reader.source
  else
    none

def emit (m : Machine) (kind : Kind) : Option (Outcome × Machine) :=
  (m.cut? kind).map fun t => (.ok t, m)

def emitWord (m : Machine) : Option (Outcome × Machine) := do
  let t ← m.cut? .identifier
  m.emit (Word.kindOf t.text)

def emitNumber (m : Machine) : Option (Outcome × Machine) := do
  let t ← m.cut? (.literal .number)
  if (Decimal.integer? t.text.toList).isSome then
    return (.ok t, m)
  else
    return (.error { fault := .numberTooLarge t.text, start := t.start, length := t.length }, m)

def failAtMark (m : Machine) (fault : Fault) (length : Nat) : Option (Outcome × Machine) :=
  some (.error { fault, start := m.mark, length }, m)

/-- A failure at a byte that has been taken: the byte is taken back, and the
character that starts there is at fault. -/
def reject (m : Machine) (here : Location) (fault : Char → Fault) :
    Option (Outcome × Machine) :=
  let m := m.back
  let c := m.reader.char?.getD Lexer.replacement
  let start : Position := { here with offset := m.reader.position.offset }
  some (.error { fault := fault c, start, length := c.utf8Size }, m)

/-- What comes of the pending part where the script ends. -/
def finish (m : Machine) : Pending → Option (Outcome × Machine)
  | .nothing => m.emit .endOfInput
  | .comment => m.marked.emit .endOfInput
  | .operator o => m.emit (.operator o)
  | .word => m.emitWord
  | .number => m.emitNumber
  | .hash => m.failAtMark .loneHash 1
  | .string => m.failAtMark .unterminatedString (m.reader.position.offset - m.mark.offset)

/-! ### Runs -/

theorem left_read_lt {r : ByteReader} {b : UInt8} (h : r.byte? = some b) :
    r.source.utf8ByteSize - r.read.2.position.offset
      < r.source.utf8ByteSize - r.position.offset := by
  have hlt : r.position.offset < r.source.utf8ByteSize := by
    rw [← Nat.not_le, ← ByteReader.byte?_eq_none_iff, h]
    exact Option.some_ne_none b
  rw [ByteReader.read_of_byte?_eq_some h]
  dsimp only
  rw [Position.offset_afterByte]
  omega

/-- Takes byte after byte until there is an answer. -/
def run (m : Machine) (p : Pending) : Option (Outcome × Machine) :=
  match _h : m.reader.byte? with
  | none => m.finish p
  | some b =>
    match p.reaction (Char.ofUInt8 b) with
    | .goOn q => m.advance.run q
    | .skip => m.advance.marked.run .nothing
    | .complete k => m.advance.emit k
    | .operatorBefore o => m.advance.back.emit (.operator o)
    | .wordBefore => m.advance.back.emitWord
    | .numberBefore => m.advance.back.emitNumber
    | .loneHash => m.advance.failAtMark .loneHash 1
    | .unexpected => m.advance.reject m.reader.position.toLocation .unexpectedCharacter
    | .illegalInString => m.advance.reject m.reader.position.toLocation .illegalInString
termination_by m.reader.source.utf8ByteSize - m.reader.position.offset
decreasing_by all_goals simpa [advance, marked] using left_read_lt _h

/-- The next token, or the next failure. -/
def read (m : Machine) : Option (Outcome × Machine) :=
  m.marked.run .nothing

/-- The next outcome of the stream; none once the stream is over. -/
def next? (m : Machine) : Option (Option Outcome × Machine) :=
  if m.finished then
    some (none, m)
  else
    m.read.map fun (outcome, m') => (some outcome, { m' with finished := outcome.isLast })

/-- Asks the machine once. -/
def pull (m : Machine) : Lexer.Pull → Option (Option Outcome × Machine)
  | .token => m.read.map fun (outcome, m') => (some outcome, m')
  | .item => m.next?

/-- Asks the machine again and again, and gives every answer. -/
def pullAll (m : Machine) : List Lexer.Pull → Option (List (Option Outcome) × Machine)
  | [] => some ([], m)
  | p :: ps => do
    let (answer, m') ← m.pull p
    let (answers, last) ← m'.pullAll ps
    return (answer :: answers, last)

end Machine

end ImageScript
