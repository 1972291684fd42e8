-- The failure of a script.  It is found where the last lexeme in front of it
-- and the gap behind that are over, and what is left from there decides which
-- failure it is.  What stands before can only move it.
import ImageScript.Proofs.Layouts
import ImageScript.Proofs.Places

namespace ImageScript

/-! ## Which fault a text has -/

/-- A reading that is a failure has its fault from the text it was read from. -/
theorem Front.Sound.exists_faulty {f : Front} (h : f.Sound) {s : Lexer} {p : Position}
    {e : Failure} (he : (s.takeFront p f).1 = .error e) :
    ∃ before stretch after, Faulty before stretch after e.fault ∧
      f.input = before ++ stretch ++ after := by
  cases f with
  | nothing => cases he
  | lexeme kind text rest => cases he
  | loneHash rest => cases he; exact ⟨_, _, _, h, rfl⟩
  | illegalInString body c rest => cases he; exact ⟨_, _, _, h, by simp [input]⟩
  | unterminatedString body => cases he; exact ⟨_, _, _, h, by simp [input]⟩
  | tooLarge digits rest => cases he; exact ⟨_, _, _, h, rfl⟩
  | unexpected c rest => cases he; exact ⟨_, _, _, h, rfl⟩

/-- The text has this fault in front. -/
def FaultyText (rest : List Char) (fault : Fault) : Prop :=
  ∃ before stretch after, Faulty before stretch after fault ∧ rest = before ++ stretch ++ after

theorem faultyText_unexpectedCharacter_iff {rest : List Char} {c : Char} :
    FaultyText rest (.unexpectedCharacter c) ↔ ∃ after, rest = c :: after ∧ StartsNothing c := by
  constructor
  · rintro ⟨before, stretch, after, h, rfl⟩
    cases h with
    | unexpectedCharacter hc => exact ⟨after, rfl, hc⟩
  · rintro ⟨after, rfl, hc⟩
    exact ⟨_, _, _, .unexpectedCharacter hc, rfl⟩

theorem faultyText_loneHash_iff {rest : List Char} :
    FaultyText rest .loneHash ↔ ∃ after, rest = '#' :: after ∧ after.head? ≠ some '#' := by
  constructor
  · rintro ⟨before, stretch, after, h, rfl⟩
    cases h with
    | loneHash ha => exact ⟨after, rfl, ha⟩
  · rintro ⟨after, rfl, ha⟩
    exact ⟨_, _, _, .loneHash ha, rfl⟩

/-- The characters that a string cannot hold, the quote apart, are those that
are not printable. -/
theorem isStringChar_eq_false_iff {c : Char} :
    isStringChar c = false ∧ c ≠ '"' ↔ ¬ (' ' ≤ c ∧ c ≤ '~') := by
  unfold isStringChar
  by_cases hq : c = '"'
  · subst hq
    decide
  · simp [hq]

theorem faultyText_illegalInString_iff {rest : List Char} {c : Char} :
    FaultyText rest (.illegalInString c) ↔
      ∃ body after, rest = '"' :: body ++ c :: after ∧ body.all isStringChar = true ∧
        ¬ (' ' ≤ c ∧ c ≤ '~') := by
  constructor
  · rintro ⟨before, stretch, after, h, rfl⟩
    cases h with
    | @illegalInString body _ _ hb hc hq =>
      exact ⟨body, after, by simp, hb, isStringChar_eq_false_iff.1 ⟨hc, hq⟩⟩
  · rintro ⟨body, after, rfl, hb, hc⟩
    obtain ⟨hc, hq⟩ := isStringChar_eq_false_iff.2 hc
    exact ⟨'"' :: body, [c], after, .illegalInString hb hc hq, by simp⟩

theorem faultyText_unterminatedString_iff {rest : List Char} :
    FaultyText rest .unterminatedString ↔
      ∃ body, rest = '"' :: body ∧ body.all isStringChar = true := by
  constructor
  · rintro ⟨before, stretch, after, h, rfl⟩
    cases h with
    | @unterminatedString body hb => exact ⟨body, by simp, hb⟩
  · rintro ⟨body, rfl, hb⟩
    exact ⟨_, _, _, .unterminatedString hb, by simp⟩

theorem faultyText_numberTooLarge_iff {rest : List Char} {digits : String} :
    FaultyText rest (.numberTooLarge digits) ↔
      (∃ d ∈ rest.head?, isLeadingDigit d = true) ∧
      digits = String.ofList (rest.takeWhile Char.isDigit) ∧
      Decimal.maxInt < Decimal.value (rest.takeWhile Char.isDigit) := by
  constructor
  · rintro ⟨before, stretch, after, h, rfl⟩
    cases h with
    | @numberTooLarge d ds _ hd hds hstop hv =>
      have hall := all_isDigit_of_isLeadingDigit hd hds
      rw [List.nil_append, takeWhile_append_of_stop hall hstop]
      exact ⟨⟨d, rfl, hd⟩, rfl, hv⟩
  · rintro ⟨⟨d, hhead, hd⟩, rfl, hv⟩
    obtain ⟨cs, rfl⟩ := List.head?_eq_some_iff.1 hhead
    rw [List.takeWhile_cons_of_pos (isDigit_of_isLeadingDigit hd)] at hv ⊢
    refine ⟨[], d :: cs.takeWhile Char.isDigit, cs.dropWhile Char.isDigit, ?_, ?_⟩
    · exact .numberTooLarge hd List.all_takeWhile (fun c hc => mem_head?_dropWhile hc) hv
    · simp

/-! ## What decides a failure -/

/-- The bytes at fault, for each fault that a rest at byte `q` can have. -/
def Fault.spanIn (q : Nat) (rest : List Char) : Fault → Span
  | unexpectedCharacter c => ⟨q, c.utf8Size⟩
  | loneHash => ⟨q, 1⟩
  | illegalInString c =>
    ⟨q + 1 + Utf8.length ((rest.drop 1).takeWhile isStringChar), c.utf8Size⟩
  | unterminatedString => ⟨q, Utf8.length rest⟩
  | numberTooLarge digits => ⟨q, digits.utf8ByteSize⟩

/-- The rest of a script, which starts at byte `q`, decides the failure: one
condition on it for each fault, and the bytes that the fault lies in. -/
structure Failure.DecidedBy (e : Failure) (q : Nat) (rest : List Char) : Prop where
  unexpectedCharacter (c : Char) : e.fault = .unexpectedCharacter c ↔
    ∃ after, rest = c :: after ∧ StartsNothing c
  loneHash : e.fault = .loneHash ↔ ∃ after, rest = '#' :: after ∧ after.head? ≠ some '#'
  illegalInString (c : Char) : e.fault = .illegalInString c ↔
    ∃ body after, rest = '"' :: body ++ c :: after ∧ body.all isStringChar = true ∧
      ¬ (' ' ≤ c ∧ c ≤ '~')
  unterminatedString : e.fault = .unterminatedString ↔
    ∃ body, rest = '"' :: body ∧ body.all isStringChar = true
  numberTooLarge (digits : String) : e.fault = .numberTooLarge digits ↔
    (∃ d ∈ rest.head?, isLeadingDigit d = true) ∧
    digits = String.ofList (rest.takeWhile Char.isDigit) ∧
    Decimal.maxInt < Decimal.value (rest.takeWhile Char.isDigit)
  span : e.span = e.fault.spanIn q rest

/-- Where the stretch at fault lies is known from the rest. -/
theorem spanIn_of_faulty {before stretch after : List Char} {fault : Fault}
    (h : Faulty before stretch after fault) (q : Nat) :
    fault.spanIn q (before ++ stretch ++ after) =
      ⟨q + Utf8.length before, Utf8.length stretch⟩ := by
  cases h with
  | unexpectedCharacter _ => rfl
  | loneHash _ => rfl
  | @illegalInString body _ c hb hc hq =>
    have hstop : ∀ d ∈ (c :: after).head?, isStringChar d = false := by
      intro d hd
      cases hd
      exact hc
    have hdrop : ('"' :: body ++ [c] ++ after).drop 1 = body ++ c :: after := by simp
    have hquote : '"'.utf8Size = 1 := rfl
    simp only [Fault.spanIn, hdrop, takeWhile_append_of_stop hb hstop, Utf8.length_cons,
      Utf8.length_nil, hquote, Nat.add_assoc, Nat.add_zero]
  | @unterminatedString body _ => simp [Fault.spanIn]
  | @numberTooLarge d ds _ _ _ _ _ =>
    simp only [Fault.spanIn, Utf8.utf8ByteSize_eq_length, String.toList_ofList, Utf8.length_nil,
      Nat.add_zero]

/-- A failure that was read from a rest is decided by the rest. -/
theorem decidedBy_of_takeFront {s : Lexer} {p : Position} {rest : List Char} {e : Failure}
    (hs : (Front.ofText rest).Sound) (he : (s.takeFront p (Front.ofText rest)).1 = .error e) :
    e.DecidedBy p.offset rest := by
  -- the rest has the fault of `e` and no other
  have hiff : ∀ fault, e.fault = fault ↔ FaultyText rest fault := by
    intro fault
    constructor
    · rintro rfl
      obtain ⟨before, stretch, after, hf, hi⟩ := hs.exists_faulty he
      rw [Front.input_ofText] at hi
      exact ⟨before, stretch, after, hf, hi⟩
    · rintro ⟨before, stretch, after, hf, rfl⟩
      rw [Lexer.takeFront_of_faulty hf] at he
      cases he
      rfl
  refine ⟨?_, ?_, ?_, ?_, ?_, ?_⟩
  · exact fun c => (hiff _).trans faultyText_unexpectedCharacter_iff
  · exact (hiff _).trans faultyText_loneHash_iff
  · exact fun c => (hiff _).trans faultyText_illegalInString_iff
  · exact (hiff _).trans faultyText_unterminatedString_iff
  · exact fun digits => (hiff _).trans faultyText_numberTooLarge_iff
  · obtain ⟨before, stretch, after, hf, rfl⟩ := (hiff e.fault).1 rfl
    rw [Lexer.takeFront_of_faulty hf] at he
    have hstart := congrArg Failure.start (Except.error.inj he)
    have hlength := congrArg Failure.length (Except.error.inj he)
    rw [spanIn_of_faulty hf, Failure.span, ← hstart, ← hlength, Position.offset_after]

/-! ## The place of a failure -/

/-- The last quote of a text tells what stands before it. -/
theorem eq_of_append_quote_eq {a a' b b' : List Char} (hb : '"' ∉ b) (hb' : '"' ∉ b')
    (h : a ++ '"' :: b = a' ++ '"' :: b') : a = a' := by
  rcases List.append_eq_append_iff.1 h with ⟨c, rfl, hc⟩ | ⟨c, rfl, hc⟩
  · cases c with
    | nil => rw [List.append_nil]
    | cons d c =>
      obtain ⟨-, rfl⟩ := List.cons.inj hc
      exact absurd (List.mem_append_right c List.mem_cons_self) hb
  · cases c with
    | nil => rw [List.append_nil]
    | cons d c =>
      obtain ⟨-, rfl⟩ := List.cons.inj hc
      exact absurd (List.mem_append_right c List.mem_cons_self) hb'

theorem quote_notMem_of_all {body : List Char} (h : body.all isStringChar = true) :
    '"' ∉ body := by
  intro hq
  have := List.all_eq_true.1 h _ hq
  revert this
  decide

/-- A failure is decided at one place of a script only. -/
theorem eq_of_decidedBy {cs front front' rest rest' : List Char} {q q' : Nat} {e : Failure}
    (h : Utf8.splitAt? q cs = some (front, rest)) (hd : e.DecidedBy q rest)
    (h' : Utf8.splitAt? q' cs = some (front', rest')) (hd' : e.DecidedBy q' rest') : q = q' := by
  have hspan : e.fault.spanIn q rest = e.fault.spanIn q' rest' := hd.span.symm.trans hd'.span
  cases hf : e.fault with
  | illegalInString c =>
    obtain ⟨body, after, rfl, hb, hc⟩ := (hd.illegalInString c).1 hf
    obtain ⟨body', after', rfl, hb', hc'⟩ := (hd'.illegalInString c).1 hf
    rw [Utf8.splitAt?_eq_some_iff] at h h'
    obtain ⟨rfl, rfl⟩ := h
    obtain ⟨hcs, rfl⟩ := h'
    have hstop : ∀ {after : List Char}, ∀ d ∈ (c :: after).head?, isStringChar d = false := by
      intro after d hd
      cases hd
      exact (isStringChar_eq_false_iff.2 hc).1
    -- the two faults start at the same byte, so the same text stands before both
    rw [hf] at hspan
    simp only [Fault.spanIn, List.cons_append, List.drop_succ_cons, List.drop_zero,
      takeWhile_append_of_stop hb hstop, takeWhile_append_of_stop hb' hstop, Span.mk.injEq,
      and_true] at hspan
    have hquote : '"'.utf8Size = 1 := rfl
    have hlen : Utf8.length (front ++ '"' :: body) = Utf8.length (front' ++ '"' :: body') := by
      simp only [Utf8.length_append, Utf8.length_cons, hquote]
      omega
    have hsplit := Utf8.splitAt?_length (front ++ '"' :: body) (c :: after)
    rw [show front ++ '"' :: body ++ c :: after = front' ++ '"' :: body' ++ c :: after' by
      simpa using hcs, hlen, Utf8.splitAt?_length] at hsplit
    have hfront := (Prod.mk.inj (Option.some.inj hsplit)).1
    rw [eq_of_append_quote_eq (quote_notMem_of_all hb) (quote_notMem_of_all hb') hfront.symm]
  | _ =>
    rw [hf] at hspan
    exact (Span.mk.inj hspan).1

/-! ## The law -/

/-- A script that fails has one place from which on what is left decides the
failure.  Before it the script is lexed, and its tokens are those that the
stream of the whole script holds before the failure. -/
theorem a_failure_is_decided_by_the_rest (source : String) (e : Failure)
    (h : lex source = .error e) :
    e.start.TrueIn source ∧
    ∃! q : Nat, ∃ front rest tokens,
      Utf8.splitAt? q source.toList = some (front, rest) ∧
      (Lexer.ofString source).rest.1 = tokens.map .ok ++ [.error e] ∧
      lex (String.ofList front) = .ok (tokens ++ [Layout.endAt (Position.start.after front)]) ∧
      e.DecidedBy q rest := by
  obtain ⟨l, rest, hv, htext, -, hsound, -, hrest⟩ := (Lexer.ofString source).exists_layout rfl rfl
  have hstart : (Lexer.ofString source).position = Position.start := rfl
  rw [hstart] at hrest
  obtain ⟨outcome, houtcome⟩ : ∃ o, o = ((Lexer.ofString source).takeFront
    (Position.start.after l.text) (Front.ofText rest)).1 := ⟨_, rfl⟩
  rw [← houtcome] at hrest
  have hlast : outcome = .error e := by
    unfold lex at h
    rw [hrest] at h
    cases outcome with
    | ok t => rw [collect_ok] at h; cases h
    | error f => rw [collect_error] at h; cases h; rfl
  subst hlast
  have hdecided := decidedBy_of_takeFront hsound houtcome.symm
  rw [Position.offset_after_start] at hdecided
  have hsplit : Utf8.splitAt? (Utf8.length l.text) source.toList = some (l.text, rest) := by
    rw [htext, Utf8.splitAt?_length]
  refine ⟨?_, Utf8.length l.text, ?_, ?_⟩
  · obtain ⟨before, stretch, after, hf, hi⟩ := hsound.exists_faulty houtcome.symm
    rw [Front.input_ofText] at hi
    rw [hi, Lexer.takeFront_of_faulty hf, ← Position.after_append] at houtcome
    have hsource : source.toList = (l.text ++ before) ++ (stretch ++ after) := by
      rw [show source.toList = l.text ++ rest from htext, hi]
      simp only [List.append_assoc]
    rw [congrArg Failure.start (Except.error.inj houtcome)]
    exact Position.trueIn_after hsource
  · refine ⟨l.text, rest, _, hsplit, hrest, ?_, hdecided⟩
    rw [lex_of_valid hv, Layout.tokens, Layout.tokensFrom_eq]
    rfl
  · rintro q ⟨front, rest', -, hsplit', -, -, hdecided'⟩
    exact eq_of_decidedBy hsplit' hdecided' hsplit hdecided

/-- A tab in a string of the second line, behind a token and a comment. -/
theorem a_tab_in_a_string_is_decided_by_the_rest :
    ∃ e, lex "a ##é\n\"b\t" = .error e ∧ e.fault = .illegalInString '\t' ∧
      e.start.TrueIn "a ##é\n\"b\t" ∧
      ∃! q : Nat, ∃ front rest tokens,
        Utf8.splitAt? q "a ##é\n\"b\t".toList = some (front, rest) ∧
        (Lexer.ofString "a ##é\n\"b\t").rest.1 = tokens.map .ok ++ [.error e] ∧
        lex (String.ofList front) = .ok (tokens ++ [Layout.endAt (Position.start.after front)]) ∧
        e.DecidedBy q rest := by
  have h : lex "a ##é\n\"b\t" =
      .error { fault := .illegalInString '\t',
               start := { line := 2, column := 3, offset := 9 }, length := 1 } := by
    decide +kernel
  exact ⟨_, h, rfl, a_failure_is_decided_by_the_rest _ _ h⟩

end ImageScript
