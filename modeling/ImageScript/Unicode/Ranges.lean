-- Sets of characters given as ranges of code points, the form in which the
-- Unicode character database states its properties.

namespace ImageScript.Unicode

/-- Ranges of code points, each with its first and its last. -/
abbrev Ranges := List (Nat × Nat)

/-- One of the ranges holds the character. -/
def Ranges.covers (ranges : Ranges) (c : Char) : Bool :=
  ranges.any fun (first, last) => first ≤ c.toNat && c.toNat ≤ last

theorem Ranges.covers_of_mem {ranges : Ranges} {first last : Nat} {c : Char}
    (hr : (first, last) ∈ ranges) (hf : first ≤ c.toNat) (hl : c.toNat ≤ last) :
    ranges.covers c = true :=
  List.any_eq_true.2 ⟨_, hr, by simp [hf, hl]⟩

end ImageScript.Unicode
