-- Where something stands in a script: its byte offset, its line and its
-- column.  A position is known in two ways, by counting along while reading
-- and by counting the bytes that come before it; the law at the end says that
-- the two agree.
import ImageScript.Utf8

namespace ImageScript

/-! ## Locations and positions -/

/-- A line and a column, both counted from one.  Columns count bytes. -/
structure Location where
  line : Nat
  column : Nat
deriving DecidableEq

/-- A location is written `line:column`. -/
def Location.text (l : Location) : String :=
  toString l.line ++ ":" ++ toString l.column

/-- A location together with the byte offset that it belongs to. -/
structure Position extends Location where
  offset : Nat
deriving DecidableEq

namespace Position

/-- Where every script begins. -/
def start : Position := { line := 1, column := 1, offset := 0 }

/-! ## Counting along -/

/-- The position after one more byte.  A line feed ends its line. -/
def afterByte (p : Position) (b : UInt8) : Position :=
  if b = 10 then
    { line := p.line + 1, column := 1, offset := p.offset + 1 }
  else
    { line := p.line, column := p.column + 1, offset := p.offset + 1 }

/-- The position after one more character. -/
def afterChar (p : Position) (c : Char) : Position :=
  if c = '\n' then
    { line := p.line + 1, column := 1, offset := p.offset + 1 }
  else
    { line := p.line, column := p.column + c.utf8Size, offset := p.offset + c.utf8Size }

/-- The position after a text. -/
def after (p : Position) (cs : List Char) : Position :=
  cs.foldl afterChar p

@[simp] theorem after_nil (p : Position) : p.after [] = p := rfl

@[simp] theorem after_cons (p : Position) (c : Char) (cs : List Char) :
    p.after (c :: cs) = (p.afterChar c).after cs := rfl

@[simp] theorem after_append (p : Position) (a b : List Char) :
    p.after (a ++ b) = (p.after a).after b := by
  simp [after]

@[simp] theorem offset_afterByte (p : Position) (b : UInt8) :
    (p.afterByte b).offset = p.offset + 1 := by
  unfold afterByte
  split <;> rfl

@[simp] theorem offset_afterChar (p : Position) (c : Char) :
    (p.afterChar c).offset = p.offset + c.utf8Size := by
  unfold afterChar
  split
  · next h => subst h; rfl
  · rfl

@[simp] theorem offset_after (p : Position) (cs : List Char) :
    (p.after cs).offset = p.offset + Utf8.length cs := by
  induction cs generalizing p with
  | nil => rfl
  | cons c cs ih => simp [ih, Nat.add_assoc]

theorem offset_after_start (cs : List Char) : (start.after cs).offset = Utf8.length cs := by
  rw [offset_after]
  exact Nat.zero_add _

end Position

/-! ## Counting what comes before -/

/-- The location that follows some bytes: one more line than they hold line
feeds, one more column than they hold bytes after the last of those. -/
def Location.following (bytes : List UInt8) : Location where
  line := 1 + bytes.count 10
  column := 1 + (bytes.reverse.takeWhile (· ≠ 10)).length

namespace Position

/-- The position that follows some bytes. -/
def following (bytes : List UInt8) : Position :=
  { Location.following bytes with offset := bytes.length }

/-- One more byte moves a counted position as it moves a carried one. -/
theorem following_concat (bytes : List UInt8) (b : UInt8) :
    following (bytes ++ [b]) = (following bytes).afterByte b := by
  by_cases h : b = 10
  · simp [following, Location.following, afterByte, h]; omega
  · simp [following, Location.following, afterByte, h]; omega

/-- No byte of a character is a line feed, unless the character is one. -/
theorem ne_lineFeed_of_mem_utf8EncodeChar {c : Char} (hc : c ≠ '\n') {b : UInt8}
    (hb : b ∈ String.utf8EncodeChar c) : b ≠ 10 := by
  have hv : c.val.toNat ≠ 10 := fun h => hc (Char.ext (UInt32.toNat_inj.1 h))
  have h10 : (10 : UInt8).toNat = 10 := rfl
  rintro rfl
  unfold String.utf8EncodeChar at hb
  dsimp only at hb
  split at hb
  · simp only [List.mem_singleton, ← UInt8.toNat_inj, UInt8.toNat_ofNat', h10] at hb
    omega
  · split at hb
    · simp only [List.mem_cons, List.not_mem_nil, or_false, ← UInt8.toNat_inj,
        UInt8.toNat_ofNat', h10] at hb
      omega
    · split at hb <;>
      · simp only [List.mem_cons, List.not_mem_nil, or_false, ← UInt8.toNat_inj,
          UInt8.toNat_ofNat', h10] at hb
        omega

/-- A character moves a position as its bytes do, one after the other. -/
theorem afterChar_eq_foldl (p : Position) (c : Char) :
    p.afterChar c = (String.utf8EncodeChar c).foldl afterByte p := by
  by_cases hc : c = '\n'
  · subst hc; rfl
  · have move : ∀ (bs : List UInt8) (q : Position), (∀ b ∈ bs, b ≠ 10) →
        bs.foldl afterByte q =
          { q with column := q.column + bs.length, offset := q.offset + bs.length } := by
      intro bs
      induction bs with
      | nil => intros; rfl
      | cons b bs ih =>
        intro q h
        rw [List.foldl_cons, ih _ fun b' hb' => h b' (List.mem_cons_of_mem _ hb')]
        simp [afterByte, h b List.mem_cons_self]
        omega
    rw [move _ _ fun b hb => ne_lineFeed_of_mem_utf8EncodeChar hc hb]
    simp [afterChar, hc, String.length_utf8EncodeChar]

theorem following_foldl (before bytes : List UInt8) :
    bytes.foldl afterByte (following before) = following (before ++ bytes) := by
  induction bytes generalizing before with
  | nil => simp
  | cons b bytes ih => simp [← following_concat, ih]

/-- Counting along a text and counting its bytes give the same position. -/
theorem after_start (cs : List Char) : start.after cs = following (Utf8.encode cs) := by
  suffices h : ∀ before : List UInt8,
      (following before).after cs = following (before ++ Utf8.encode cs) from h []
  intro before
  induction cs generalizing before with
  | nil => simp
  | cons c cs ih => simp [afterChar_eq_foldl, following_foldl, ih]

end Position

end ImageScript
