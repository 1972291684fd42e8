-- Words: the letters, digits and underscores they are made of, and the kinds
-- they have.  A word is a keyword, a named constant, a truth value or, if it
-- is none of these, an identifier.
import ImageScript.Kind

namespace ImageScript.Word

/-! ## The characters of words -/

/-- A word starts with an ASCII letter or an underscore. -/
def isStart (c : Char) : Bool :=
  c.isAlpha || c = '_'

/-- A word goes on with ASCII letters, digits and underscores. -/
def isPart (c : Char) : Bool :=
  c.isAlphanum || c = '_'

theorem isPart_of_isStart {c : Char} (h : isStart c) : isPart c := by
  simp only [isStart, isPart, Char.isAlphanum, Bool.or_eq_true] at *
  exact h.imp_left .inl

/-! ## The kind of a word -/

/-- The words that name a constant. -/
def constants : List String :=
  ["Z", "BLACK", "BLUE", "CYAN", "DARK_GRAY", "GRAY", "GREEN", "LIGHT_GRAY", "MAGENTA",
    "ORANGE", "PINK", "RED", "WHITE", "YELLOW"]

/-- The words that name a truth value. -/
def booleans : List String :=
  ["TRUE", "FALSE"]

/-- The kind of a word.  Upper and lower case differ. -/
def kindOf (word : String) : Kind :=
  match Keyword.ofText? word with
  | some k => .keyword k
  | none =>
    if word ∈ constants then .literal .constant
    else if word ∈ booleans then .literal .boolean
    else .identifier

/-- No word is a number, a string or the end of the input. -/
theorem kindOf_cases (word : String) :
    (∃ k, kindOf word = .keyword k) ∨ kindOf word = .literal .constant ∨
      kindOf word = .literal .boolean ∨ kindOf word = .identifier := by
  unfold kindOf
  split
  · next k _ => exact Or.inl ⟨k, rfl⟩
  · right
    by_cases hc : word ∈ constants
    · simp [hc]
    · by_cases hb : word ∈ booleans <;> simp [hc, hb]

end ImageScript.Word
