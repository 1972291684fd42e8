-- Text measured in UTF-8 bytes: how many bytes a text takes, which bytes
-- they are, and where a text can be cut.  Offsets, lengths and columns of a
-- script all count bytes, so everything that places something stands on this.

namespace ImageScript.Utf8

/-! ## Length and bytes -/

/-- The number of bytes that a text takes. -/
def length : List Char → Nat
  | [] => 0
  | c :: cs => c.utf8Size + length cs

/-- The bytes that a text is written with. -/
def encode (cs : List Char) : List UInt8 :=
  cs.flatMap String.utf8EncodeChar

@[simp] theorem length_nil : length [] = 0 := rfl

@[simp] theorem length_cons (c : Char) (cs : List Char) :
    length (c :: cs) = c.utf8Size + length cs := rfl

@[simp] theorem length_append (a b : List Char) : length (a ++ b) = length a + length b := by
  induction a with
  | nil => simp
  | cons c a ih => simp [ih, Nat.add_assoc]

/-- Of two texts in front of the same text the shorter is in front of the
longer. -/
theorem exists_append_of_length_le {a b c d : List Char} (h : a ++ b = c ++ d)
    (hl : length a ≤ length c) : ∃ m, c = a ++ m ∧ b = m ++ d := by
  rcases List.append_eq_append_iff.1 h with ⟨m, hc, hb⟩ | ⟨m, rfl, hd⟩
  · exact ⟨m, hc, hb⟩
  · cases m with
    | nil => exact ⟨[], by simp, by simpa using hd.symm⟩
    | cons x m =>
      have := x.utf8Size_pos
      simp only [length_append, length_cons] at hl
      omega

theorem length_pos {cs : List Char} (h : cs ≠ []) : 0 < length cs := by
  cases cs with
  | nil => exact absurd rfl h
  | cons c cs => exact Nat.add_pos_left c.utf8Size_pos _

@[simp] theorem encode_nil : encode [] = [] := rfl

@[simp] theorem encode_cons (c : Char) (cs : List Char) :
    encode (c :: cs) = String.utf8EncodeChar c ++ encode cs := rfl

@[simp] theorem encode_append (a b : List Char) : encode (a ++ b) = encode a ++ encode b := by
  simp [encode]

@[simp] theorem length_encode (cs : List Char) : (encode cs).length = length cs := by
  induction cs with
  | nil => rfl
  | cons c cs ih => simp [ih, String.length_utf8EncodeChar]

/-- A string takes as many bytes as its characters. -/
theorem utf8ByteSize_eq_length (s : String) : s.utf8ByteSize = length s.toList := by
  rw [← length_encode, encode, ← String.size_toByteArray, ← String.utf8Encode_toList]
  simp [List.utf8Encode]

/-! ## Cutting -/

/-- Cuts a text after `n` bytes.  Nothing comes of it where that place is
inside a character or past the end. -/
def splitAt? : Nat → List Char → Option (List Char × List Char)
  | 0, cs => some ([], cs)
  | _ + 1, [] => none
  | n + 1, c :: cs =>
    if c.utf8Size ≤ n + 1 then
      (splitAt? (n + 1 - c.utf8Size) cs).map fun (a, b) => (c :: a, b)
    else
      none

/-- The character that starts at a byte offset. -/
def charAt? (n : Nat) (cs : List Char) : Option Char :=
  (splitAt? n cs).bind fun (_, rest) => rest.head?

/-- The piece of a text that starts at `offset` and takes `size` bytes. -/
def slice? (offset size : Nat) (cs : List Char) : Option (List Char) := do
  let (_, rest) ← splitAt? offset cs
  let (piece, _) ← splitAt? size rest
  return piece

/-- A text can be cut at an offset exactly where some of its characters end. -/
theorem splitAt?_eq_some_iff {n : Nat} {cs a b : List Char} :
    splitAt? n cs = some (a, b) ↔ cs = a ++ b ∧ length a = n := by
  fun_induction splitAt? n cs generalizing a b with
  | case1 cs =>
    constructor
    · rintro ⟨⟩; simp
    · rintro ⟨rfl, h⟩
      cases a with
      | nil => simp
      | cons c a => have := c.utf8Size_pos; simp at h; omega
  | case2 n =>
    simp only [reduceCtorEq, false_iff]
    rintro ⟨h, h'⟩
    obtain ⟨rfl, rfl⟩ := List.nil_eq_append_iff.1 h
    simp at h'
  | case3 n c cs hc ih =>
    simp only [Option.map_eq_some_iff, Prod.exists, Prod.mk.injEq]
    constructor
    · rintro ⟨a', b', h, rfl, rfl⟩
      obtain ⟨rfl, h'⟩ := ih.1 h
      simp [h']; omega
    · rintro ⟨h, h'⟩
      cases a with
      | nil => simp at h'
      | cons d a =>
        obtain ⟨rfl, rfl⟩ := by simpa using h
        exact ⟨a, b, ih.2 ⟨rfl, by simp at h'; omega⟩, rfl, rfl⟩
  | case4 n c cs hc =>
    simp only [reduceCtorEq, false_iff]
    rintro ⟨h, h'⟩
    cases a with
    | nil => simp at h'
    | cons d a =>
      obtain ⟨rfl, rfl⟩ := by simpa using h
      simp at h'; omega

theorem splitAt?_length (a b : List Char) : splitAt? (length a) (a ++ b) = some (a, b) :=
  splitAt?_eq_some_iff.2 ⟨rfl, rfl⟩

theorem charAt?_eq_some_iff {n : Nat} {cs : List Char} {c : Char} :
    charAt? n cs = some c ↔ ∃ a b, cs = a ++ c :: b ∧ length a = n := by
  simp only [charAt?, Option.bind_eq_some_iff, Prod.exists, splitAt?_eq_some_iff,
    List.head?_eq_some_iff]
  constructor
  · rintro ⟨a, _, ⟨rfl, h⟩, b, rfl⟩; exact ⟨a, b, rfl, h⟩
  · rintro ⟨a, b, rfl, h⟩; exact ⟨a, _, ⟨rfl, h⟩, b, rfl⟩

/-- Behind a text that stands in front, the next character starts. -/
theorem charAt?_length (a b : List Char) : charAt? (length a) (a ++ b) = b.head? := by
  rw [charAt?, splitAt?_length, Option.bind_some]

theorem slice?_eq_some_iff {offset size : Nat} {cs piece : List Char} :
    slice? offset size cs = some piece ↔
      ∃ a b, cs = a ++ piece ++ b ∧ length a = offset ∧ length piece = size := by
  simp only [slice?, Option.bind_eq_bind, Option.pure_def, Option.bind_eq_some_iff, Prod.exists,
    splitAt?_eq_some_iff, Option.some.injEq]
  constructor
  · rintro ⟨a, _, ⟨rfl, h⟩, p, b, ⟨rfl, h'⟩, rfl⟩; exact ⟨a, b, by simp, h, h'⟩
  · rintro ⟨a, b, rfl, h, h'⟩; exact ⟨a, piece ++ b, ⟨by simp, h⟩, piece, b, ⟨rfl, h'⟩, rfl⟩

/-- Inside a character a text cannot be cut. -/
theorem splitAt?_inside {c : Char} {k : Nat} (h0 : 0 < k) (hk : k < c.utf8Size)
    (a b : List Char) : splitAt? (length a + k) (a ++ c :: b) = none := by
  rw [Option.eq_none_iff_forall_ne_some]
  intro (front, rest) h
  obtain ⟨hsplit, hlen⟩ := splitAt?_eq_some_iff.1 h
  clear h
  induction a generalizing front with
  | nil =>
    cases front with
    | nil =>
      rw [length_nil] at hlen
      omega
    | cons d front =>
      cases hsplit
      rw [length_nil, length_cons] at hlen
      omega
  | cons d a ih =>
    cases front with
    | nil =>
      have := d.utf8Size_pos
      rw [length_nil, length_cons] at hlen
      omega
    | cons e front =>
      obtain ⟨rfl, htail⟩ := List.cons.inj hsplit
      rw [length_cons, length_cons] at hlen
      exact ih front htail (by omega)

/-! ## The bytes of one character -/

theorem exists_firstByte (c : Char) : ∃ b bs, String.utf8EncodeChar c = b :: bs :=
  List.exists_cons_of_ne_nil String.utf8EncodeChar_ne_nil

/-- A byte of a longer character has its high bit set. -/
theorem le_toNat_of_mem_utf8EncodeChar {c : Char} (hc : c.utf8Size ≠ 1) {b : UInt8}
    (hb : b ∈ String.utf8EncodeChar c) : 128 ≤ b.toNat := by
  have hv : 127 < c.val.toNat := by
    rw [Ne, Char.utf8Size_eq_one_iff, UInt32.le_iff_toNat_le] at hc
    have h127 : (127 : UInt32).toNat = 127 := rfl
    omega
  unfold String.utf8EncodeChar at hb
  dsimp only at hb
  rw [if_neg (Nat.not_le_of_lt hv)] at hb
  split at hb
  · simp only [List.mem_cons, List.not_mem_nil, or_false] at hb
    rcases hb with rfl | rfl <;> rw [UInt8.toNat_ofNat'] <;> omega
  · split at hb <;> simp only [List.mem_cons, List.not_mem_nil, or_false] at hb
    · rcases hb with rfl | rfl | rfl <;> rw [UInt8.toNat_ofNat'] <;> omega
    · rcases hb with rfl | rfl | rfl | rfl <;> rw [UInt8.toNat_ofNat'] <;> omega

/-- A character of one byte is the character that its byte stands for. -/
theorem ofUInt8_toUInt8 {c : Char} (hc : c.utf8Size = 1) : Char.ofUInt8 c.val.toUInt8 = c := by
  have hv : c.val.toNat ≤ 127 := by
    rw [Char.utf8Size_eq_one_iff, UInt32.le_iff_toNat_le] at hc
    exact hc
  apply Char.ext
  apply UInt32.toNat_inj.1
  show c.val.toUInt8.toUInt32.toNat = _
  rw [UInt8.toNat_toUInt32, UInt32.toNat_toUInt8]
  omega

/-- The first byte of a character of one byte begins no other character. -/
theorem eq_of_firstByte {c d : Char} {b : UInt8} {bs bs' : List UInt8} (hc : c.utf8Size = 1)
    (hb : String.utf8EncodeChar c = b :: bs) (hb' : String.utf8EncodeChar d = b :: bs') :
    c = d := by
  have hlow : c.val.toNat ≤ 127 := by
    rw [Char.utf8Size_eq_one_iff, UInt32.le_iff_toNat_le] at hc
    exact hc
  rw [String.utf8EncodeChar_eq_singleton hc] at hb
  obtain ⟨rfl, -⟩ := List.cons.inj hb
  by_cases hd : d.utf8Size = 1
  · rw [String.utf8EncodeChar_eq_singleton hd] at hb'
    rw [← ofUInt8_toUInt8 hc, ← ofUInt8_toUInt8 hd, (List.cons.inj hb').1]
  · have hhigh := le_toNat_of_mem_utf8EncodeChar hd (by rw [hb']; exact List.mem_cons_self)
    rw [UInt32.toNat_toUInt8] at hhigh
    omega

/-- The bytes of a character tell where it ends: no character begins with the
bytes of another. -/
theorem eq_of_utf8EncodeChar_append {c d : Char} {x y : List UInt8}
    (h : String.utf8EncodeChar c ++ x = String.utf8EncodeChar d ++ y) : c = d ∧ x = y := by
  have hc := ByteArray.utf8DecodeChar?_utf8EncodeChar_append (b := x.toByteArray) (c := c)
  have hd := ByteArray.utf8DecodeChar?_utf8EncodeChar_append (b := y.toByteArray) (c := d)
  rw [← List.toByteArray_append, h, List.toByteArray_append, hd] at hc
  obtain rfl := Option.some.inj hc
  exact ⟨rfl, List.append_cancel_left h⟩

end ImageScript.Utf8
