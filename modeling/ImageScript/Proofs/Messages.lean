-- What messages say.  A character that is quoted can be told from every other
-- one, and so can the faults by their messages.  What a terminal would act on is
-- written as an escape, so that no message moves the cursor or ends its line.
import ImageScript.Proofs.Answers
import ImageScript.Proofs.Calls
import ImageScript.Unicode.Width
import Mathlib.Data.List.Basic

namespace ImageScript

/-! ## Hexadecimal digits -/

/-- A hexadecimal digit stands for one number. -/
theorem digitChar_injective {m n : Nat} (hm : m < 16) (hn : n < 16)
    (h : Nat.digitChar m = Nat.digitChar n) : m = n := by
  have hall : ∀ m < 16, ∀ n < 16, Nat.digitChar m = Nat.digitChar n → m = n := by decide
  exact hall m hm n hn h

theorem toNat_digitChar {n : Nat} (hn : n < 16) :
    32 ≤ (Nat.digitChar n).toNat ∧ (Nat.digitChar n).toNat ≤ 126 := by
  have hall : ∀ n < 16, 32 ≤ (Nat.digitChar n).toNat ∧ (Nat.digitChar n).toNat ≤ 126 := by decide
  exact hall n hn

/-- Hexadecimal digits spell one number only. -/
theorem toDigits_sixteen_injective {m n : Nat} (h : Nat.toDigits 16 m = Nat.toDigits 16 n) :
    m = n := by
  induction m using Nat.strong_induction_on generalizing n with
  | _ m ih =>
    have hshort : m < 16 ↔ n < 16 := by
      have hm := Nat.length_toDigits_le_iff (b := 16) (k := 1) (n := m) (by decide) (by decide)
      have hn := Nat.length_toDigits_le_iff (b := 16) (k := 1) (n := n) (by decide) (by decide)
      rw [h] at hm
      exact hm.symm.trans hn
    by_cases hm : m < 16
    · have hn := hshort.1 hm
      rw [Nat.toDigits_of_lt_base hm, Nat.toDigits_of_lt_base hn] at h
      exact digitChar_injective hm hn (List.cons.inj h).1
    · have hn := mt hshort.2 hm
      rw [Nat.toDigits_of_base_le (by decide) (Nat.le_of_not_lt hm),
        Nat.toDigits_of_base_le (by decide) (Nat.le_of_not_lt hn)] at h
      obtain ⟨hfront, hlast⟩ := List.append_inj' h rfl
      have hquotient := ih (m / 16) (by omega) hfront
      have hdigit := digitChar_injective (Nat.mod_lt m (by decide)) (Nat.mod_lt n (by decide))
        (List.cons.inj hlast).1
      omega

theorem toNat_of_mem_toDigits_sixteen {n : Nat} {c : Char} (h : c ∈ Nat.toDigits 16 n) :
    32 ≤ c.toNat ∧ c.toNat ≤ 126 := by
  induction n using Nat.strong_induction_on with
  | _ n ih =>
    by_cases hn : n < 16
    · rw [Nat.toDigits_of_lt_base hn, List.mem_singleton] at h
      rw [h]
      exact toNat_digitChar hn
    · rw [Nat.toDigits_of_base_le (by decide) (Nat.le_of_not_lt hn), List.mem_append,
        List.mem_singleton] at h
      rcases h with h | h
      · exact ih (n / 16) (by omega) h
      · rw [h]
        exact toNat_digitChar (Nat.mod_lt n (by decide))

/-! ## Quoted characters -/

/-- The three forms in which a character is quoted.  Only what can be seen stands
for itself. -/
theorem escapeChar_cases (c : Char) :
    (∃ letter, (c, letter) ∈ shortEscapes ∧ escapeChar c = ['\\', letter]) ∨
    escapeChar c = codePointEscape c ∨
    (escapeChar c = [c] ∧ Unicode.isUnprintable c = false) := by
  unfold escapeChar
  split
  · next letter hletter =>
    obtain ⟨before, after, hescapes, -⟩ := List.lookup_eq_some_iff.1 hletter
    refine Or.inl ⟨letter, ?_, rfl⟩
    rw [hescapes]
    simp
  · split
    · exact Or.inr (Or.inl rfl)
    · next h =>
      simp only [Bool.or_eq_true, not_or, Bool.not_eq_true] at h
      exact Or.inr (Or.inr ⟨rfl, h.1.2⟩)

theorem length_codePointEscape (c : Char) : 5 ≤ (codePointEscape c).length := by
  have := Nat.length_toDigits_pos (b := 16) (n := c.toNat)
  simp only [codePointEscape, List.length_cons, List.length_append, List.length_nil]
  omega

theorem codePointEscape_injective {c d : Char} (h : codePointEscape c = codePointEscape d) :
    c = d := by
  simp only [codePointEscape, List.cons_append, List.cons.injEq, true_and] at h
  exact Char.toNat_inj.1 (toDigits_sixteen_injective (List.append_cancel_right h))

theorem shortEscapes_injective {c d letter : Char} (hc : (c, letter) ∈ shortEscapes)
    (hd : (d, letter) ∈ shortEscapes) : c = d := by
  have hall : ∀ e ∈ shortEscapes, ∀ f ∈ shortEscapes, e.2 = f.2 → e.1 = f.1 := by decide
  exact hall _ hc _ hd rfl

/-- No two characters are quoted alike. -/
theorem escapeChar_injective {c d : Char} (h : escapeChar c = escapeChar d) : c = d := by
  have hc := length_codePointEscape c
  have hd := length_codePointEscape d
  have hlength := congrArg List.length h
  rcases escapeChar_cases c with ⟨x, hx, hec⟩ | hec | ⟨hec, -⟩ <;>
    rcases escapeChar_cases d with ⟨y, hy, hed⟩ | hed | ⟨hed, -⟩ <;>
    rw [hec, hed] at h hlength
  -- two characters of different forms are quoted in different lengths
  any_goals (simp only [List.length_cons, List.length_nil] at hlength; omega)
  · simp only [List.cons.injEq, and_true, true_and] at h
    subst h
    exact shortEscapes_injective hx hy
  · exact codePointEscape_injective h
  · exact (List.cons.inj h).1

theorem quoteChar_injective {c d : Char} (h : quoteChar c = quoteChar d) : c = d := by
  unfold quoteChar at h
  have hinner := (List.cons.inj (String.ofList_injective h)).2
  exact escapeChar_injective (List.append_cancel_right hinner)

/-! ## Faults and their messages -/

namespace Fault

/-- The words of a message in front of what it names, and those behind it. -/
def words : Fault → String × String
  | unexpectedCharacter _ => ("Unexpected character ", "")
  | loneHash => ("Expected \x60#\x60 after \x60#\x60 to start a comment", "")
  | illegalInString _ => ("Illegal character ", " in string literal")
  | unterminatedString => ("Unterminated string literal", "")
  | numberTooLarge _ => ("Integer literal ", " does not fit in 32 bits")

/-- What a message names. -/
def named : Fault → String
  | unexpectedCharacter c => quoteChar c
  | illegalInString c => quoteChar c
  | numberTooLarge digits => digits
  | loneHash => ""
  | unterminatedString => ""

theorem message_eq (f : Fault) : f.message = f.words.1 ++ (f.named ++ f.words.2) := by
  have hbare : ∀ s : String, s = s ++ ("" ++ "") := by simp
  cases f with
  | unexpectedCharacter c => exact congrArg (_ ++ ·) String.append_empty.symm
  | loneHash => exact hbare _
  | illegalInString c => exact String.append_assoc
  | unterminatedString => exact hbare _
  | numberTooLarge digits => exact String.append_assoc

/-- The letters that a message begins with, which tell what kind of fault it is. -/
def opening : Fault → List Char
  | unexpectedCharacter _ => ['U', 'n', 'e']
  | loneHash => ['E', 'x', 'p']
  | illegalInString _ => ['I', 'l', 'l']
  | unterminatedString => ['U', 'n', 't']
  | numberTooLarge _ => ['I', 'n', 't']

theorem take_message (f : Fault) : f.message.toList.take 3 = f.opening := by
  have hwords : f.words.1.toList.take 3 = f.opening ∧ 3 ≤ f.words.1.toList.length := by
    cases f <;> simp [words, opening]
  rw [message_eq, String.toList_append, List.take_append_of_le_length hwords.2]
  exact hwords.1

/-- In the same words different things are told apart. -/
theorem named_eq {a b : Fault} (h : a.message = b.message) (hwords : a.words = b.words) :
    a.named = b.named := by
  rw [message_eq, message_eq, hwords, String.append_right_inj, String.append_left_inj] at h
  exact h

/-- No two faults have the same message. -/
theorem message_injective {a b : Fault} (h : a.message = b.message) : a = b := by
  have hopening : a.opening = b.opening := by rw [← take_message, h, take_message]
  cases a with
  | unexpectedCharacter c =>
    cases b with
    | unexpectedCharacter d =>
      have hquote : quoteChar c = quoteChar d := named_eq h rfl
      rw [quoteChar_injective hquote]
    | _ => exact absurd hopening (by simp [opening])
  | loneHash =>
    cases b with
    | loneHash => rfl
    | _ => exact absurd hopening (by simp [opening])
  | illegalInString c =>
    cases b with
    | illegalInString d =>
      have hquote : quoteChar c = quoteChar d := named_eq h rfl
      rw [quoteChar_injective hquote]
    | _ => exact absurd hopening (by simp [opening])
  | unterminatedString =>
    cases b with
    | unterminatedString => rfl
    | _ => exact absurd hopening (by simp [opening])
  | numberTooLarge digits =>
    cases b with
    | numberTooLarge digits' =>
      have hdigits : digits = digits' := named_eq h rfl
      rw [hdigits]
    | _ => exact absurd hopening (by simp [opening])

end Fault

/-! ## What a terminal acts on -/

namespace Unicode

/-- The characters that end a line, wherever they stand. -/
def lineBreaks : List Char :=
  ['\n', '\x0b', '\x0c', '\r', '\u0085', '\u2028', '\u2029']

/-- The character neither controls the terminal nor ends the line. -/
def IsTame (c : Char) : Prop :=
  isControl c = false ∧ c ∉ lineBreaks

theorem isTame_of_isUnprintable {c : Char} (h : isUnprintable c = false) : IsTame c := by
  have hbreaks : lineBreaks.all isUnprintable = true := by decide +kernel
  refine ⟨?_, ?_⟩
  · have hlow : ¬ c.toNat < 32 := by
      intro hlow
      rw [isUnprintable_of_lt_space hlow] at h
      cases h
    have hhigh : ¬ (127 ≤ c.toNat ∧ c.toNat ≤ 159) := by
      rintro ⟨hfrom, hto⟩
      rw [isUnprintable_of_delete_le hfrom (by omega)] at h
      cases h
    simp only [isControl, Bool.or_eq_false_iff, Bool.and_eq_false_iff, decide_eq_false_iff_not]
    omega
  · intro hmem
    rw [List.all_eq_true.1 hbreaks c hmem] at h
    cases h

theorem isTame_of_ascii {c : Char} (h : 32 ≤ c.toNat ∧ c.toNat ≤ 126) : IsTame c := by
  have hbreaks : lineBreaks.all (fun b => b.toNat < 32 || 126 < b.toNat) = true := by decide
  refine ⟨?_, ?_⟩
  · simp only [isControl, Bool.or_eq_false_iff, Bool.and_eq_false_iff, decide_eq_false_iff_not]
    omega
  · intro hmem
    have hbreak := List.all_eq_true.1 hbreaks c hmem
    simp only [Bool.or_eq_true, decide_eq_true_eq] at hbreak
    omega

/-- All characters of a text are tame. -/
def TameText (text : List Char) : Prop :=
  ∀ c ∈ text, IsTame c

theorem TameText.append {a b : List Char} (ha : TameText a) (hb : TameText b) :
    TameText (a ++ b) :=
  List.forall_mem_append.2 ⟨ha, hb⟩

theorem tameText_of_ascii {text : List Char}
    (h : text.all (fun c => 32 ≤ c.toNat && c.toNat ≤ 126) = true) : TameText text := by
  intro c hc
  apply isTame_of_ascii
  simpa using List.all_eq_true.1 h c hc

end Unicode

open Unicode

/-- Whatever a character is, its quotation is tame. -/
theorem tameText_quoteChar (c : Char) : TameText (quoteChar c).toList := by
  have hescape : TameText (escapeChar c) := by
    rcases escapeChar_cases c with ⟨letter, hletter, hc⟩ | hc | ⟨hc, hshown⟩
    · have hletters : ∀ e ∈ shortEscapes, 32 ≤ e.2.toNat ∧ e.2.toNat ≤ 126 := by decide
      rw [hc]
      exact tameText_of_ascii (by simpa using hletters _ hletter)
    · have hdigits : TameText (Nat.toDigits 16 c.toNat) := fun d hd =>
        isTame_of_ascii (toNat_of_mem_toDigits_sixteen hd)
      have hparts : codePointEscape c =
          ['\\', 'u', '\x7b'] ++ (Nat.toDigits 16 c.toNat ++ ['\x7d']) := rfl
      rw [hc, hparts]
      exact (tameText_of_ascii (by decide)).append (hdigits.append (tameText_of_ascii (by decide)))
    · rw [hc]
      intro d hd
      rw [List.mem_singleton.1 hd]
      exact isTame_of_isUnprintable hshown
  have hquote : TameText ['\x27'] := tameText_of_ascii (by decide)
  rw [quoteChar, String.toList_ofList]
  exact (hquote.append hescape).append hquote

/-- A message is tame if the digits that it names are. -/
theorem Fault.tameText_message {f : Fault}
    (h : ∀ digits, f = .numberTooLarge digits → TameText digits.toList) :
    TameText f.message.toList := by
  have hwords : TameText f.words.1.toList ∧ TameText f.words.2.toList := by
    refine ⟨tameText_of_ascii ?_, tameText_of_ascii ?_⟩
    · cases f <;> simp [words]
    · cases f <;> simp [words]
  have hnamed : TameText f.named.toList := by
    cases f with
    | unexpectedCharacter c => exact tameText_quoteChar c
    | illegalInString c => exact tameText_quoteChar c
    | numberTooLarge digits => exact h digits rfl
    | _ => exact tameText_of_ascii rfl
  rw [message_eq, String.toList_append, String.toList_append]
  exact hwords.1.append (hnamed.append hwords.2)

/-! ## Failures of scripts -/

/-- A call that fails finds a fault, or the rest of a broken character. -/
theorem Lexer.faulty_or_broken_of_read {s : Lexer} {e : Failure} (h : s.read.1 = .error e) :
    (∃ before stretch after, Faulty before stretch after e.fault) ∨
      e.fault = .unexpectedCharacter replacement := by
  cases ha : s.ahead with
  | brokenCharacter =>
    rw [read_of_brokenCharacter ha] at h
    cases h
    exact Or.inr rfl
  | text cs =>
    rcases read_text_cases ha with ⟨-, hr⟩ | ⟨_, _, _, _, _, _, _, _, hr⟩ |
      ⟨_, before, stretch, after, fault, -, -, hfaulty, hr⟩
    · rw [hr] at h
      cases h
    · rw [hr] at h
      cases h
    · rw [hr] at h
      cases h
      exact Or.inl ⟨before, stretch, after, hfaulty⟩

/-- A number that is too large is named by its digits. -/
theorem Answered.all_isDigit {source : String} {e : Failure} {digits : String}
    (h : Answered source (.error e)) (hf : e.fault = .numberTooLarge digits) :
    digits.toList.all Char.isDigit = true := by
  obtain ⟨s, -, hs⟩ := h.exists_read
  rcases Lexer.faulty_or_broken_of_read hs with ⟨before, stretch, after, hfaulty⟩ | hbroken
  · rw [hf] at hfaulty
    cases hfaulty with
    | numberTooLarge hd hds _ _ =>
      rw [String.toList_ofList]
      exact all_isDigit_of_isLeadingDigit hd hds
  · rw [hf] at hbroken
    cases hbroken

/-- The message of a failure is tame. -/
theorem Answered.tameText_message {source : String} {e : Failure}
    (h : Answered source (.error e)) : TameText e.message.toList := by
  apply Fault.tameText_message
  intro digits hf c hc
  have := toNat_of_isDigit (List.all_eq_true.1 (h.all_isDigit hf) c hc)
  exact isTame_of_ascii (by omega)

/-! ## The law -/

/-- Two faults have the same message only if they are the same, and no failure that
a script comes to, whatever it was asked before, has a message with a control
character or a line break in it. -/
theorem messages_tell_faults_apart_on_one_line :
    (∀ a b : Fault, a.message = b.message ↔ a = b) ∧
    ∀ source e, Answered source (.error e) →
      ∀ c ∈ e.message.toList, isControl c = false ∧ c ∉ lineBreaks := by
  refine ⟨?_, fun source e h => h.tameText_message⟩
  intro a b
  constructor
  · exact Fault.message_injective
  · rintro rfl
    rfl

/-- A line separator in a string, behind a tab in another one. -/
theorem a_line_separator_is_named_on_one_line :
    ∃ e, Answered "\"\t\"\u2028" (.error e) ∧ e.fault = .illegalInString '\u2028' ∧
      e.message = "Illegal character '\\u\x7b2028\x7d' in string literal" ∧
      ∀ c ∈ e.message.toList, isControl c = false ∧ c ∉ lineBreaks := by
  let e : Failure :=
    { fault := .illegalInString '\u2028', start := { line := 1, column := 4, offset := 3 },
      length := 3 }
  have he : Answered "\"\t\"\u2028" (.error e) :=
    ⟨[.token, .token], _, _, answers_pullAll _ _, by decide +kernel⟩
  exact ⟨e, he, rfl, by decide +kernel, messages_tell_faults_apart_on_one_line.2 _ e he⟩

end ImageScript
