-- Gaps: what may stand before, between and after the tokens of a script.  A
-- gap is made of blanks and of comments, which run from two hashes to the end
-- of the line.  Only the script's last comment may be cut off by its end.

namespace ImageScript

/-! ## Gaps -/

/-- Spaces, tabs and line ends separate tokens and mean nothing else. -/
def isBlank (c : Char) : Bool :=
  c = ' ' || c = '\t' || c = '\r' || c = '\n'

/-- A text of blanks and of comments that are closed by a line feed. -/
inductive Gap : List Char → Prop
  | nil : Gap []
  | blank {c : Char} {g : List Char} : isBlank c = true → Gap g → Gap (c :: g)
  | comment {body g : List Char} :
      '\n' ∉ body → Gap g → Gap ('#' :: '#' :: (body ++ '\n' :: g))

/-- A gap at the end of a script: the last comment may be open. -/
inductive FinalGap : List Char → Prop
  | closed {g : List Char} : Gap g → FinalGap g
  | opened {g body : List Char} : Gap g → '\n' ∉ body → FinalGap (g ++ '#' :: '#' :: body)

/-! ## Cutting off the gap in front -/

/-- What the next character of a gap belongs to. -/
inductive GapPart where
  | blanks | comment
deriving DecidableEq

/-- Splits a text into the gap in front of it and what follows the gap. -/
def splitGap : GapPart → List Char → List Char × List Char
  | _, [] => ([], [])
  | .comment, c :: cs =>
    let (gap, rest) := splitGap (if c = '\n' then .blanks else .comment) cs
    (c :: gap, rest)
  | .blanks, '#' :: '#' :: cs =>
    let (gap, rest) := splitGap .comment cs
    ('#' :: '#' :: gap, rest)
  | .blanks, c :: cs =>
    if isBlank c then
      let (gap, rest) := splitGap .blanks cs
      (c :: gap, rest)
    else
      ([], c :: cs)

/-! ## The laws -/

/-- Splitting loses nothing. -/
@[simp] theorem splitGap_append (part : GapPart) (cs : List Char) :
    (splitGap part cs).1 ++ (splitGap part cs).2 = cs := by
  fun_induction splitGap part cs <;> simp_all

/-- What follows a gap is never longer than the whole. -/
theorem length_splitGap_le (part : GapPart) (cs : List Char) :
    (splitGap part cs).2.length ≤ cs.length := by
  have h := congrArg List.length (splitGap_append part cs)
  rw [List.length_append] at h
  omega

/-- What follows a gap starts with no blank and with no comment. -/
theorem head_splitGap (part : GapPart) (cs : List Char) :
    (∀ c ∈ (splitGap part cs).2.head?, isBlank c = false) ∧
      ∀ rest, (splitGap part cs).2 = '#' :: rest → rest.head? ≠ some '#' := by
  fun_induction splitGap part cs with
  | case1 => simp
  | case2 c cs gap rest hs ih => simpa [hs] using ih
  | case3 cs gap rest hs ih => simpa [hs] using ih
  | case4 c cs hx hc gap rest hs ih => simpa [hs] using ih
  | case5 c cs hx hc =>
    refine ⟨by simpa using hc, fun rest hr hh => ?_⟩
    obtain ⟨rfl, rfl⟩ := List.cons.inj hr
    obtain ⟨rest, rfl⟩ := List.head?_eq_some_iff.1 hh
    exact hx rest rfl rfl

/-- No gap is cut off where none begins. -/
theorem splitGap_of_head {cs : List Char} (hb : ∀ c ∈ cs.head?, isBlank c = false)
    (hh : ∀ rest, cs = '#' :: rest → rest.head? ≠ some '#') :
    splitGap .blanks cs = ([], cs) := by
  cases cs with
  | nil => rfl
  | cons c cs =>
    have hone : ∀ rest, c = '#' → cs = '#' :: rest → False := by
      rintro rest rfl rfl
      exact hh _ rfl rfl
    rw [splitGap.eq_4 _ _ hone]
    exact if_neg (by rw [hb c rfl]; exact Bool.false_ne_true)

theorem splitGap_blank {c : Char} (hc : isBlank c = true) (cs : List Char) :
    splitGap .blanks (c :: cs) = (c :: (splitGap .blanks cs).1, (splitGap .blanks cs).2) := by
  have hh : c ≠ '#' := by
    rintro rfl
    revert hc
    decide
  rw [splitGap.eq_4 _ _ fun _ h => absurd h hh]
  simp [hc]

/-- A comment that is never closed takes all that is left. -/
theorem splitGap_comment_of_notMem {body : List Char} (h : '\n' ∉ body) :
    splitGap .comment body = (body, []) := by
  induction body with
  | nil => rfl
  | cons c body ih =>
    rw [List.mem_cons, not_or] at h
    simp [splitGap, Ne.symm h.1, ih h.2]

/-- A comment ends with its line. -/
theorem splitGap_comment_append {body : List Char} (h : '\n' ∉ body) (cs : List Char) :
    splitGap .comment (body ++ '\n' :: cs) =
      (body ++ '\n' :: (splitGap .blanks cs).1, (splitGap .blanks cs).2) := by
  induction body with
  | nil => simp [splitGap]
  | cons c body ih =>
    rw [List.mem_cons, not_or] at h
    simp [splitGap, Ne.symm h.1, ih h.2]

/-- A gap in front of a text is cut off with the gap that the text has. -/
theorem splitGap_append_of_gap {g : List Char} (h : Gap g) (cs : List Char) :
    splitGap .blanks (g ++ cs) = (g ++ (splitGap .blanks cs).1, (splitGap .blanks cs).2) := by
  induction h with
  | nil => rfl
  | blank hc _ ih => rw [List.cons_append, splitGap_blank hc, ih]; rfl
  | @comment body g hb _ ih =>
    simp [splitGap, splitGap_comment_append hb, ih]

theorem Gap.append {g h : List Char} (hg : Gap g) (hh : Gap h) : Gap (g ++ h) := by
  induction hg with
  | nil => exact hh
  | blank hc _ ih => exact .blank hc ih
  | @comment body g hb _ ih =>
    have := Gap.comment hb ih
    simpa using this

theorem FinalGap.append {g h : List Char} (hg : Gap g) (hh : FinalGap h) : FinalGap (g ++ h) := by
  cases hh with
  | closed hh => exact .closed (hg.append hh)
  | opened hh hb =>
    rw [← List.append_assoc]
    exact .opened (hg.append hh) hb

/-- What is cut off is a gap, and only at the end of the text may it be an open
one. -/
theorem finalGap_splitGap (cs : List Char) :
    FinalGap (splitGap .blanks cs).1 ∧
      ((splitGap .blanks cs).2 ≠ [] → Gap (splitGap .blanks cs).1) := by
  suffices h : ∀ part : GapPart,
      (part = .blanks → FinalGap (splitGap part cs).1 ∧
        ((splitGap part cs).2 ≠ [] → Gap (splitGap part cs).1)) ∧
      (part = .comment → ∀ body, '\n' ∉ body →
        FinalGap ('#' :: '#' :: (body ++ (splitGap part cs).1)) ∧
        ((splitGap part cs).2 ≠ [] → Gap ('#' :: '#' :: (body ++ (splitGap part cs).1)))) from
    (h .blanks).1 rfl
  intro part
  fun_induction splitGap part cs with
  | case1 part =>
    refine ⟨fun _ => ⟨.closed .nil, by simp⟩, fun _ body hb => ⟨?_, by simp⟩⟩
    simpa using FinalGap.opened .nil hb
  | case2 c cs gap rest hs ih =>
    refine ⟨by simp, fun _ body hb => ?_⟩
    by_cases hc : c = '\n'
    · rw [if_pos hc] at hs ih
      obtain ⟨hf, hg⟩ := ih.1 rfl
      rw [hs] at hf hg
      subst hc
      refine ⟨?_, fun hr => .comment hb (hg hr)⟩
      simpa using FinalGap.append (Gap.comment hb .nil) hf
    · rw [if_neg hc] at hs ih
      have := ih.2 rfl (body ++ [c]) (by simp [hb, Ne.symm hc])
      simpa [hs] using this
  | case3 cs gap rest hs ih =>
    refine ⟨fun _ => ?_, by simp⟩
    have := ih.2 rfl [] (by simp)
    simpa [hs] using this
  | case4 c cs hx hc gap rest hs ih =>
    refine ⟨fun _ => ?_, by simp⟩
    obtain ⟨hf, hg⟩ := ih.1 rfl
    simp only [hs] at hf hg
    exact ⟨FinalGap.append (.blank hc .nil) hf, fun hr => .blank hc (hg hr)⟩
  | case5 c cs hx hc => exact ⟨fun _ => ⟨.closed .nil, fun _ => .nil⟩, by simp⟩

end ImageScript
