-- Where the characters of gaps and lexemes stand among all characters.  All of
-- them are ASCII, so a byte of a longer character belongs to none of them, and
-- those of lexemes are printable.
import ImageScript.Gap
import ImageScript.Lexeme
import ImageScript.Utf8

namespace ImageScript

/-! ## Ranges of characters -/

theorem toNat_of_isBlank {c : Char} (h : isBlank c = true) : c.toNat ≤ 32 := by
  unfold isBlank at h
  simp only [Bool.or_eq_true, decide_eq_true_eq] at h
  rcases h with ((rfl | rfl) | rfl) | rfl <;> decide

theorem isBlank_eq_false_of_lt {c : Char} (h : 32 < c.toNat) : isBlank c = false := by
  rw [Bool.eq_false_iff]
  intro hb
  have := toNat_of_isBlank hb
  omega

theorem toNat_of_isUpper {c : Char} (h : c.isUpper = true) : 65 ≤ c.toNat ∧ c.toNat ≤ 90 := by
  obtain ⟨hlow, hhigh⟩ := of_decide_eq_true h
  exact ⟨UInt32.le_iff_toNat_le.1 hlow, UInt32.le_iff_toNat_le.1 hhigh⟩

theorem toNat_of_isLower {c : Char} (h : c.isLower = true) : 97 ≤ c.toNat ∧ c.toNat ≤ 122 := by
  obtain ⟨hlow, hhigh⟩ := Bool.and_eq_true_iff.1 h
  exact ⟨UInt32.le_iff_toNat_le.1 (of_decide_eq_true hlow),
    UInt32.le_iff_toNat_le.1 (of_decide_eq_true hhigh)⟩

theorem toNat_of_isDigit {c : Char} (h : c.isDigit = true) : 48 ≤ c.toNat ∧ c.toNat ≤ 57 :=
  Char.isDigit_iff_toNat.1 h

theorem toNat_of_isPart {c : Char} (h : Word.isPart c = true) :
    48 ≤ c.toNat ∧ c.toNat ≤ 122 := by
  have hclass : (((c.isUpper || c.isLower) || c.isDigit) || c = '_') = true := h
  simp only [Bool.or_eq_true, decide_eq_true_eq] at hclass
  rcases hclass with ((h | h) | h) | rfl
  · have := toNat_of_isUpper h
    omega
  · have := toNat_of_isLower h
    omega
  · have := toNat_of_isDigit h
    omega
  · decide

theorem toNat_of_printable {c : Char} : ' ' ≤ c ∧ c ≤ '~' ↔ 32 ≤ c.toNat ∧ c.toNat ≤ 126 := by
  rw [Char.le_def, Char.le_def, UInt32.le_iff_toNat_le, UInt32.le_iff_toNat_le]
  rfl

theorem Operator.toNat_of_mem_spelling {o : Operator} {c : Char} (h : c ∈ o.spelling) :
    33 ≤ c.toNat ∧ c.toNat ≤ 126 := by
  have hall : o.spelling.all (fun d => 33 ≤ d.toNat && d.toNat ≤ 126) = true := by
    cases o <;> rfl
  have hc := List.all_eq_true.1 hall c h
  rw [Bool.and_eq_true, decide_eq_true_eq, decide_eq_true_eq] at hc
  exact hc

theorem utf8Size_eq_one_iff {c : Char} : c.utf8Size = 1 ↔ c.toNat < 128 := by
  rw [Char.utf8Size_eq_one_iff, UInt32.le_iff_toNat_le]
  exact Nat.lt_succ_iff.symm

theorem Operator.utf8Size_of_mem_spelling {o : Operator} {c : Char} (h : c ∈ o.spelling) :
    c.utf8Size = 1 := by
  have := toNat_of_mem_spelling h
  rw [utf8Size_eq_one_iff]
  omega

/-! ## The characters of one lexeme -/

theorem all_isPart_of_isStart {c : Char} {cs : List Char} (hc : Word.isStart c = true)
    (hcs : cs.all Word.isPart = true) : (c :: cs).all Word.isPart = true := by
  rw [List.all_cons, Word.isPart_of_isStart hc, hcs, Bool.true_and]

theorem isDigit_of_isLeadingDigit {d : Char} (hd : isLeadingDigit d = true) :
    d.isDigit = true := by
  rw [isLeadingDigit, Bool.and_eq_true] at hd
  exact hd.1

theorem all_isDigit_of_isLeadingDigit {d : Char} {ds : List Char} (hd : isLeadingDigit d = true)
    (hds : ds.all Char.isDigit = true) : (d :: ds).all Char.isDigit = true := by
  rw [List.all_cons, isDigit_of_isLeadingDigit hd, hds, Bool.true_and]

/-! ## Characters beyond ASCII -/

/-- A character beyond ASCII is in none of the classes that the lexer knows. -/
structure Foreign (c : Char) : Prop where
  blank : isBlank c = false
  part : Word.isPart c = false
  digit : c.isDigit = false
  printable : ¬ (' ' ≤ c ∧ c ≤ '~')
  operator : ∀ o : Operator, c ∉ o.spelling
  ne : ∀ d : Char, d.toNat < 128 → c ≠ d

theorem foreign_of_le {c : Char} (h : 128 ≤ c.toNat) : Foreign c := by
  refine ⟨?_, ?_, ?_, ?_, ?_, ?_⟩
  · exact isBlank_eq_false_of_lt (by omega)
  · rw [Bool.eq_false_iff]
    intro hp
    have := toNat_of_isPart hp
    omega
  · rw [Bool.eq_false_iff]
    intro hd
    have := toNat_of_isDigit hd
    omega
  · rw [toNat_of_printable]
    omega
  · intro o ho
    have := Operator.toNat_of_mem_spelling ho
    omega
  · rintro d hd rfl
    omega

/-- A character that takes more than one byte is foreign. -/
theorem foreign_of_long {c : Char} (hc : c.utf8Size ≠ 1) : Foreign c := by
  rw [Ne, utf8Size_eq_one_iff] at hc
  exact foreign_of_le (by omega)

/-- So is each of its bytes, taken for a character. -/
theorem foreign_ofUInt8 {c : Char} (hc : c.utf8Size ≠ 1) {b : UInt8}
    (hb : b ∈ String.utf8EncodeChar c) : Foreign (Char.ofUInt8 b) := by
  apply foreign_of_le
  show 128 ≤ b.toUInt32.toNat
  rw [UInt8.toNat_toUInt32]
  exact Utf8.le_toNat_of_mem_utf8EncodeChar hc hb

theorem Foreign.start {c : Char} (h : Foreign c) : Word.isStart c = false := by
  rw [Bool.eq_false_iff]
  intro hs
  have := Word.isPart_of_isStart hs
  rw [h.part] at this
  cases this

/-! ## Lexemes -/

/-- All characters of a lexeme are printable ASCII, and only a string holds a
space. -/
theorem Lexeme.printable {kind : Kind} {text : List Char} (h : Lexeme kind text) {c : Char}
    (hc : c ∈ text) :
    32 ≤ c.toNat ∧ c.toNat ≤ 126 ∧ (c = ' ' → kind = .literal .string) := by
  have strict : 33 ≤ c.toNat ∧ c.toNat ≤ 126 →
      32 ≤ c.toNat ∧ c.toNat ≤ 126 ∧ (c = ' ' → kind = .literal .string) := by
    rintro ⟨h1, h2⟩
    refine ⟨by omega, h2, ?_⟩
    rintro rfl
    exact absurd h1 (by decide)
  cases h with
  | operator o => exact strict (Operator.toNat_of_mem_spelling hc)
  | @word d ds hd hds =>
    have := toNat_of_isPart (List.all_eq_true.1 (all_isPart_of_isStart hd hds) c hc)
    exact strict ⟨by omega, by omega⟩
  | zero =>
    rw [List.mem_singleton] at hc
    subst hc
    exact strict (by decide)
  | @number d ds hd hds _ =>
    have := toNat_of_isDigit (List.all_eq_true.1 (all_isDigit_of_isLeadingDigit hd hds) c hc)
    exact strict ⟨by omega, by omega⟩
  | @string body hb =>
    have hp : ' ' ≤ c ∧ c ≤ '~' := by
      simp only [List.cons_append, List.mem_cons, List.mem_append, List.not_mem_nil,
        or_false] at hc
      rcases hc with rfl | hc | rfl
      · decide
      · have := List.all_eq_true.1 hb c hc
        simp only [isStringChar, Bool.and_eq_true, decide_eq_true_eq] at this
        exact this.1
      · decide
    obtain ⟨h1, h2⟩ := toNat_of_printable.1 hp
    exact ⟨h1, h2, fun _ => rfl⟩

end ImageScript
