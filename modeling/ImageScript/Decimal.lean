-- Whole numbers in decimal digits, and the range that a literal can hold.

namespace ImageScript.Decimal

/-- The number that some digits spell. -/
def value (digits : List Char) : Nat :=
  Nat.ofDigitChars 10 digits 0

/-- The greatest number that a literal can stand for. -/
def maxInt : Nat := 2147483647

/-- The least number, one further from zero. -/
def minInt : Int := -2147483648

/-- The number that a text of digits alone spells. -/
def natural? (text : List Char) : Option Nat :=
  if text ≠ [] ∧ text.all Char.isDigit then some (value text) else none

/-- The number that digits with a sign or none before them spell, if it is in
range. -/
def integer? (text : List Char) : Option Int := do
  let n ← match text with
    | '-' :: digits => (natural? digits).map fun n => -(n : Int)
    | '+' :: digits => (natural? digits).map Int.ofNat
    | digits => (natural? digits).map Int.ofNat
  if minInt ≤ n ∧ n ≤ maxInt then some n else none

/-! ## Digits of a number -/

/-- The digits of a number spell it. -/
theorem value_toDigits (n : Nat) : value (Nat.toDigits 10 n) = n :=
  Nat.ofDigitChars_toDigits (by decide) (by decide)

theorem all_isDigit_toDigits (n : Nat) : (Nat.toDigits 10 n).all Char.isDigit = true := by
  rw [List.all_eq_true]
  intro c hc
  exact Nat.isDigit_of_mem_toDigits (by decide) (by decide) hc

@[simp] theorem natural?_toDigits (n : Nat) : natural? (Nat.toDigits 10 n) = some n := by
  unfold natural?
  rw [if_pos ⟨Nat.toDigits_ne_nil, all_isDigit_toDigits n⟩, value_toDigits]

theorem digitChar_of_isDigit {c : Char} (h : c.isDigit = true) :
    Nat.digitChar (c.toNat - 48) = c := by
  obtain ⟨hlow, hhigh⟩ := Char.isDigit_iff_toNat.1 h
  have h0 : '0'.toNat = 48 := rfl
  have h9 : '9'.toNat = 57 := rfl
  apply Char.toNat_inj.1
  rw [Nat.toNat_digitChar_of_lt_ten (by omega)]
  omega

/-- More digits behind those of a number are the digits of the longer one. -/
theorem toDigits_ofDigitChars {ds : List Char} (hd : ds.all Char.isDigit = true) {n : Nat}
    (hn : 0 < n) : Nat.toDigits 10 (Nat.ofDigitChars 10 ds n) = Nat.toDigits 10 n ++ ds := by
  induction ds generalizing n with
  | nil => simp
  | cons c ds ih =>
    simp only [List.all_cons, Bool.and_eq_true] at hd
    have h0 : '0'.toNat = 48 := rfl
    have hc := digitChar_of_isDigit hd.1
    have hlt : c.toNat - 48 < 10 := by
      have := Char.isDigit_iff_toNat.1 hd.1
      have h9 : '9'.toNat = 57 := rfl
      omega
    rw [Nat.ofDigitChars_cons, h0, ih hd.2 (by omega),
      ← Nat.toDigits_append_toDigits (by decide) hn hlt, Nat.toDigits_of_lt_base hlt, hc]
    simp

/-- Digits that start with no zero are those of the number that they spell. -/
theorem toDigits_value {d : Char} {ds : List Char} (hd : (d :: ds).all Char.isDigit = true)
    (h0 : d ≠ '0') : Nat.toDigits 10 (value (d :: ds)) = d :: ds := by
  simp only [List.all_cons, Bool.and_eq_true] at hd
  have hrange := Char.isDigit_iff_toNat.1 hd.1
  have hzero : '0'.toNat = 48 := rfl
  have h9 : '9'.toNat = 57 := rfl
  have hne : d.toNat ≠ 48 := by
    intro h
    exact h0 (Char.toNat_inj.1 h)
  have hlt : d.toNat - 48 < 10 := by omega
  unfold value
  rw [Nat.ofDigitChars_cons, hzero, toDigits_ofDigitChars hd.2 (by omega), Nat.mul_zero,
    Nat.zero_add, Nat.toDigits_of_lt_base hlt, digitChar_of_isDigit hd.1]
  rfl

/-! ## Digits in range -/

/-- Digits alone are read as the number that they spell, if it is not too
large. -/
theorem integer?_of_digits {ds : List Char} (hne : ds ≠ [])
    (hd : ds.all Char.isDigit = true) :
    integer? ds = if value ds ≤ maxInt then some (value ds : Int) else none := by
  have hnat : natural? ds = some (value ds) := if_pos ⟨hne, hd⟩
  have hrange : minInt ≤ (value ds : Int) ∧ (value ds : Int) ≤ maxInt ↔ value ds ≤ maxInt := by
    unfold minInt
    omega
  have hint : integer? ds =
      if minInt ≤ (value ds : Int) ∧ (value ds : Int) ≤ maxInt then some (value ds : Int)
      else none := by
    unfold integer?
    split
    · simp at hd
    · simp at hd
    · rw [hnat]
      rfl
  simp only [hint, hrange]

/-- Digits alone are out of range only if their number is too large. -/
theorem isSome_integer?_of_digits {ds : List Char} (hne : ds ≠ [])
    (hd : ds.all Char.isDigit = true) : (integer? ds).isSome = true ↔ value ds ≤ maxInt := by
  rw [integer?_of_digits hne hd]
  by_cases h : value ds ≤ maxInt <;> simp [h]

end ImageScript.Decimal
