-- What the machine that sees one byte at a time does in front of a character:
-- which byte it sees there, how it reacts, and where it is behind that byte.
import ImageScript.Machine
import ImageScript.Proofs.Ascii
import ImageScript.Proofs.Places

namespace ImageScript

/-! ## Tables -/

/-- The table of continuations holds all operators of two characters. -/
theorem Operator.lookup_continuations (o : Operator) (d : Char) :
    o.continuations.lookup d = ofSpelling? (o.spelling ++ [d]) := by
  apply Option.ext
  intro longer
  rw [ofSpelling?_eq_some_iff]
  constructor
  · intro h
    have hall : ∀ pair ∈ o.continuations, pair.2.spelling = o.spelling ++ [pair.1] := by
      cases o <;> decide
    obtain ⟨as, bs, hl, -⟩ := List.lookup_eq_some_iff.1 h
    exact hall (d, longer) (by rw [hl]; exact List.mem_append_right as List.mem_cons_self)
  · intro h
    have hd : longer.spelling.getLast? = some d := by rw [h, List.getLast?_concat]
    have ho : o.spelling = longer.spelling.dropLast := by rw [h, List.dropLast_concat]
    have ho := ofSpelling?_eq_some_iff.2 ho
    cases longer <;> cases hd <;> cases ho <;> rfl

/-- What the machine does about a byte of a character beyond ASCII. -/
def Pending.reactionToForeign : Pending → Reaction
  | .nothing => .unexpected
  | .hash => .loneHash
  | .comment => .goOn .comment
  | .operator o => .operatorBefore o
  | .word => .wordBefore
  | .number => .numberBefore
  | .string => .illegalInString

theorem Pending.reaction_of_foreign {c : Char} (h : Foreign c) (p : Pending) :
    p.reaction c = p.reactionToForeign := by
  have hspell : ∀ cs, Operator.ofSpelling? (cs ++ [c]) = none := by
    intro cs
    rw [Option.eq_none_iff_forall_ne_some]
    intro o ho
    apply h.operator o
    rw [Operator.ofSpelling?_eq_some_iff.1 ho]
    exact List.mem_append_right cs List.mem_cons_self
  have hq : c ≠ '"' := h.ne _ (by decide)
  have hh : c ≠ '#' := h.ne _ (by decide)
  have h0 : c ≠ '0' := h.ne _ (by decide)
  have hn : c ≠ '\n' := h.ne _ (by decide)
  cases p with
  | nothing =>
    have hone : Operator.ofSpelling? [c] = none := hspell []
    simp only [reaction, h.blank, if_neg hh, if_neg hq, if_neg h0, h.digit, h.start, hone,
      Bool.false_eq_true, if_false, reactionToForeign]
  | hash => exact if_neg hh
  | comment => exact if_neg hn
  | operator o =>
    simp only [reaction, Operator.lookup_continuations, hspell, reactionToForeign]
  | word => simp only [reaction, h.part, Bool.false_eq_true, if_false, reactionToForeign]
  | number => simp only [reaction, h.digit, Bool.false_eq_true, if_false, reactionToForeign]
  | string =>
    have hp : (' ' ≤ c && c ≤ '~') = false := by
      rw [Bool.eq_false_iff]
      intro hp
      rw [Bool.and_eq_true, decide_eq_true_eq, decide_eq_true_eq] at hp
      exact h.printable hp
    simp only [reaction, if_neg hq, hp, Bool.false_eq_true, if_false, reactionToForeign]

/-! ## Where the machine is -/

namespace Machine

/-- A machine with its reader at `p` and its mark at `mark`. -/
def standing (source : String) (mark p : Position) (finished : Bool)
    (previous : Option Position) : Machine :=
  { reader := { source, position := p, previous }, mark, finished }

variable {source : String} {mark p q : Position} {finished : Bool} {previous : Option Position}

theorem advance_standing {b : UInt8}
    (h : (standing source mark p finished previous).reader.byte? = some b) :
    (standing source mark p finished previous).advance =
      standing source mark (p.afterByte b) finished (some p) := by
  unfold advance
  rw [ByteReader.read_of_byte?_eq_some h]
  rfl

theorem back_standing :
    (standing source mark p finished (some q)).back = standing source mark q finished none := rfl

/-- The bytes at a machine are those behind the bytes that it has counted. -/
theorem byte?_standing {before behind : List UInt8}
    (h : Utf8.encode source.toList = before ++ behind) :
    (standing source mark (.following before) finished previous).reader.byte? = behind[0]? := by
  have ho : (Position.following before).offset = before.length := rfl
  unfold ByteReader.byte? standing
  dsimp only
  rw [h, ho, List.getElem?_append_right (Nat.le_refl _), Nat.sub_self]

/-- The first byte of a character is read in front of it. -/
theorem byte?_standing_cons {front cs : List Char} {c : Char} {b : UInt8} {bs : List UInt8}
    (h : source.toList = front ++ c :: cs) (hb : String.utf8EncodeChar c = b :: bs) :
    (standing source mark (Position.start.after front) finished previous).reader.byte? =
      some b := by
  have h' : Utf8.encode source.toList = Utf8.encode front ++ (b :: (bs ++ Utf8.encode cs)) := by
    rw [h, Utf8.encode_append, Utf8.encode_cons, hb]
    rfl
  rw [Position.after_start, byte?_standing h']
  rfl

theorem char?_standing_cons {front cs : List Char} {c : Char}
    (h : source.toList = front ++ c :: cs) :
    (standing source mark (Position.start.after front) finished previous).reader.char? =
      some c := by
  unfold ByteReader.char? standing
  rw [Utf8.charAt?_eq_some_iff]
  exact ⟨front, cs, h, (Position.offset_after_start front).symm⟩

/-- Behind the first byte of a longer character there is one more. -/
theorem byte?_inside {front rest : List Char} {c : Char} {b : UInt8} {bs : List UInt8}
    (h : source.toList = front ++ c :: rest) (hc : c.utf8Size ≠ 1)
    (hb : String.utf8EncodeChar c = b :: bs) :
    ∃ b' ∈ String.utf8EncodeChar c,
      (standing source mark (.following (Utf8.encode front ++ [b])) finished previous).reader.byte? =
        some b' := by
  have hsize : c.utf8Size = bs.length + 1 := by
    rw [← String.length_utf8EncodeChar, hb, List.length_cons]
  cases bs with
  | nil => exact absurd hsize hc
  | cons b' bs =>
    have hall : Utf8.encode source.toList =
        Utf8.encode front ++ [b] ++ (b' :: bs ++ Utf8.encode rest) := by
      rw [h, Utf8.encode_append, Utf8.encode_cons, hb]
      simp only [List.append_assoc, List.cons_append, List.nil_append]
    refine ⟨b', ?_, ?_⟩
    · rw [hb]
      exact List.mem_cons_of_mem b List.mem_cons_self
    · rw [byte?_standing hall]
      rfl

/-- No character starts there. -/
theorem char?_inside {front rest : List Char} {c : Char} (b : UInt8)
    (h : source.toList = front ++ c :: rest) (hc : c.utf8Size ≠ 1) :
    (standing source mark (.following (Utf8.encode front ++ [b])) finished previous).reader.char? =
      none := by
  unfold ByteReader.char? Utf8.charAt? standing
  dsimp only
  rw [Position.splitAt?_inside h hc b]
  rfl

/-- The text between the mark and the reader can be cut out. -/
theorem cut?_standing {front text rest : List Char}
    (h : source.toList = front ++ text ++ rest) (kind : Kind) :
    (standing source (Position.start.after front) (Position.start.after (front ++ text)) finished
      previous).cut? kind =
      some { kind, start := Position.start.after front, text := String.ofList text } := by
  have hmark : (Position.start.after front).offset = Utf8.length front :=
    Position.offset_after_start front
  have hstop : (Position.start.after (front ++ text)).offset =
      Utf8.length front + Utf8.length text := by
    rw [Position.offset_after_start, Utf8.length_append]
  have hslice : Utf8.slice? (Utf8.length front) (Utf8.length text) source.toList = some text :=
    Utf8.slice?_eq_some_iff.2 ⟨front, rest, h, rfl, rfl⟩
  unfold cut? standing Token.cut?
  dsimp only
  rw [hmark, hstop, if_pos (Nat.le_add_right _ _), Nat.add_sub_cancel_left, hslice]
  rfl

/-! ## One byte -/

/-- What the machine does once it has stepped from `here` over a byte. -/
def react (here next : Machine) : Reaction → Option (Outcome × Machine)
  | .goOn q => next.run q
  | .skip => next.marked.run .nothing
  | .complete k => next.emit k
  | .operatorBefore o => next.back.emit (.operator o)
  | .wordBefore => next.back.emitWord
  | .numberBefore => next.back.emitNumber
  | .loneHash => next.failAtMark .loneHash 1
  | .unexpected => next.reject here.reader.position.toLocation .unexpectedCharacter
  | .illegalInString => next.reject here.reader.position.toLocation .illegalInString

theorem run_of_none {m : Machine} (h : m.reader.byte? = none) (pending : Pending) :
    m.run pending = m.finish pending := by
  rw [run]
  split
  · rfl
  · next b hb =>
    rw [h] at hb
    cases hb

theorem run_of_some {m : Machine} {b : UInt8} (h : m.reader.byte? = some b) (pending : Pending) :
    m.run pending = m.react m.advance (pending.reaction (Char.ofUInt8 b)) := by
  rw [run]
  split
  · next hn =>
    rw [h] at hn
    cases hn
  · next b' hb =>
    rw [h] at hb
    cases hb
    cases pending.reaction (Char.ofUInt8 b) <;> rfl

/-- The machine at the end of the script. -/
theorem run_nil {front : List Char} (h : source.toList = front) (pending : Pending) :
    (standing source mark (Position.start.after front) finished previous).run pending =
      (standing source mark (Position.start.after front) finished previous).finish pending := by
  have h' : Utf8.encode source.toList = Utf8.encode front ++ [] := by rw [h, List.append_nil]
  apply run_of_none
  rw [Position.after_start, byte?_standing h']
  rfl

/-! ## One character -/

/-- A byte means to the machine what the character means that it begins. -/
theorem reaction_firstByte {c : Char} {b : UInt8} {bs : List UInt8}
    (hb : String.utf8EncodeChar c = b :: bs) (pending : Pending) :
    pending.reaction (Char.ofUInt8 b) = pending.reaction c := by
  by_cases hc : c.utf8Size = 1
  · rw [String.utf8EncodeChar_eq_singleton hc] at hb
    cases hb
    rw [Utf8.ofUInt8_toUInt8 hc]
  · have hmem : b ∈ String.utf8EncodeChar c := by
      rw [hb]
      exact List.mem_cons_self
    rw [Pending.reaction_of_foreign (foreign_of_long hc),
      Pending.reaction_of_foreign (foreign_ofUInt8 hc hmem)]

/-- In front of a character the machine reacts to the character, but steps over
its first byte only. -/
theorem run_cons {front cs : List Char} {c : Char} {b : UInt8} {bs : List UInt8}
    (h : source.toList = front ++ c :: cs) (hb : String.utf8EncodeChar c = b :: bs)
    (pending : Pending) :
    (standing source mark (Position.start.after front) finished previous).run pending =
      (standing source mark (Position.start.after front) finished previous).react
        (standing source mark ((Position.start.after front).afterByte b) finished
          (some (Position.start.after front)))
        (pending.reaction c) := by
  have hbyte : (standing source mark (Position.start.after front) finished previous).reader.byte? =
      some b := byte?_standing_cons h hb
  rw [run_of_some hbyte, advance_standing hbyte, reaction_firstByte hb]

/-- What the machine does next hangs on its reaction alone. -/
theorem run_congr {front cs : List Char} {c : Char} {pending pending' : Pending}
    (h : source.toList = front ++ c :: cs) (hr : pending.reaction c = pending'.reaction c) :
    (standing source mark (Position.start.after front) finished previous).run pending =
      (standing source mark (Position.start.after front) finished previous).run pending' := by
  obtain ⟨b, bs, hb⟩ := Utf8.exists_firstByte c
  rw [run_cons h hb pending, run_cons h hb pending', hr]

/-- A character of one byte is stepped over whole. -/
theorem run_cons_of_ascii {front cs : List Char} {c : Char}
    (h : source.toList = front ++ c :: cs) (hc : c.utf8Size = 1) (pending : Pending) :
    (standing source mark (Position.start.after front) finished previous).run pending =
      (standing source mark (Position.start.after front) finished previous).react
        (standing source mark (Position.start.after (front ++ [c])) finished
          (some (Position.start.after front)))
        (pending.reaction c) := by
  have hb := String.utf8EncodeChar_eq_singleton hc
  have hp : (Position.start.after front).afterByte c.val.toUInt8 =
      Position.start.after (front ++ [c]) := by
    rw [Position.afterByte_of_ascii hc hb, Position.after_append, Position.after_cons,
      Position.after_nil]
  rw [run_cons h hb, hp]

end Machine

end ImageScript
