-- Lexemes: the texts that tokens are spelled with.  The relation says which
-- text is a lexeme of which kind; the reader takes the longest lexeme off the
-- front of a text, or says what is wrong there.
import ImageScript.Decimal
import ImageScript.Word

namespace ImageScript

/-! ## Which texts are lexemes -/

/-- A string holds printable ASCII characters other than the quote. -/
def isStringChar (c : Char) : Bool :=
  ' ' ≤ c && c ≤ '~' && c ≠ '"'

/-- The digits that a number of more than one digit can start with. -/
def isLeadingDigit (c : Char) : Bool :=
  c.isDigit && c ≠ '0'

/-- The text is a lexeme of the kind. -/
inductive Lexeme : Kind → List Char → Prop
  | operator (o : Operator) : Lexeme (.operator o) o.spelling
  | word {c : Char} {cs : List Char} :
      Word.isStart c = true → cs.all Word.isPart = true →
      Lexeme (Word.kindOf (String.ofList (c :: cs))) (c :: cs)
  | zero : Lexeme (.literal .number) ['0']
  | number {d : Char} {ds : List Char} :
      isLeadingDigit d = true → ds.all Char.isDigit = true →
      Decimal.value (d :: ds) ≤ Decimal.maxInt →
      Lexeme (.literal .number) (d :: ds)
  | string {body : List Char} :
      body.all isStringChar = true → Lexeme (.literal .string) ('"' :: body ++ ['"'])

/-- A character that would make a lexeme longer if it stood right behind it. -/
inductive Extends : List Char → Char → Prop
  | word {c d : Char} {cs : List Char} :
      Word.isStart c = true → Word.isPart d = true → Extends (c :: cs) d
  | number {c d : Char} {cs : List Char} :
      isLeadingDigit c = true → d.isDigit = true → Extends (c :: cs) d
  | operator {o longer : Operator} {d : Char} :
      longer.spelling = o.spelling ++ [d] → Extends o.spelling d

/-! ## Reading a lexeme -/

/-- What a text begins with, once the gap before it is gone.  Every case but
the first holds all of the text, cut into its parts. -/
inductive Front where
  /-- The text is empty. -/
  | nothing
  /-- A lexeme, and the text behind it. -/
  | lexeme (kind : Kind) (text rest : List Char)
  /-- A hash that no other hash follows. -/
  | loneHash (rest : List Char)
  /-- An open string with a character that it cannot hold. -/
  | illegalInString (body : List Char) (c : Char) (rest : List Char)
  /-- A string that is still open where the text ends. -/
  | unterminatedString (body : List Char)
  /-- A number that is too large. -/
  | tooLarge (digits rest : List Char)
  /-- A character that starts no lexeme. -/
  | unexpected (c : Char) (rest : List Char)
deriving DecidableEq

namespace Front

/-- Reads a string whose opening quote has been read. -/
def ofString (cs : List Char) : Front :=
  let body := cs.takeWhile isStringChar
  match cs.dropWhile isStringChar with
  | [] => .unterminatedString body
  | c :: rest =>
    if c = '"' then .lexeme (.literal .string) ('"' :: body ++ ['"']) rest
    else .illegalInString body c rest

/-- Reads a number with all the digits that follow. -/
def ofNumber (cs : List Char) : Front :=
  let digits := cs.takeWhile Char.isDigit
  let rest := cs.dropWhile Char.isDigit
  if Decimal.value digits ≤ Decimal.maxInt then .lexeme (.literal .number) digits rest
  else .tooLarge digits rest

/-- Reads a word with all the letters, digits and underscores that follow. -/
def ofWord (cs : List Char) : Front :=
  let word := cs.takeWhile Word.isPart
  .lexeme (Word.kindOf (String.ofList word)) word (cs.dropWhile Word.isPart)

/-- Reads an operator of one character, if there is one. -/
def ofShortOperator (c : Char) (cs : List Char) : Front :=
  match Operator.ofSpelling? [c] with
  | some o => .lexeme (.operator o) [c] cs
  | none => .unexpected c cs

/-- Reads an operator, of two characters if they spell one. -/
def ofOperator (c : Char) : List Char → Front
  | [] => ofShortOperator c []
  | d :: cs =>
    match Operator.ofSpelling? [c, d] with
    | some o => .lexeme (.operator o) [c, d] cs
    | none => ofShortOperator c (d :: cs)

/-- What a text begins with.  A zero is always a number of its own. -/
def ofText : List Char → Front
  | [] => .nothing
  | c :: cs =>
    if c = '#' then .loneHash cs
    else if c = '"' then ofString cs
    else if c = '0' then .lexeme (.literal .number) ['0'] cs
    else if c.isDigit then ofNumber (c :: cs)
    else if Word.isStart c then ofWord (c :: cs)
    else ofOperator c cs

/-! ## What the parts hold -/

/-- The text that was read, put together again. -/
def input : Front → List Char
  | nothing => []
  | lexeme _ text rest => text ++ rest
  | loneHash rest => '#' :: rest
  | illegalInString body c rest => '"' :: body ++ c :: rest
  | unterminatedString body => '"' :: body
  | tooLarge digits rest => digits ++ rest
  | unexpected c rest => c :: rest

theorem input_ofString (cs : List Char) : (ofString cs).input = '"' :: cs := by
  have h := List.takeWhile_append_dropWhile (p := isStringChar) (l := cs)
  unfold ofString
  split
  · next hr => simp_all [input]
  · next c rest hr =>
    rw [hr] at h
    dsimp only
    split <;> simp_all [input]

theorem input_ofNumber (cs : List Char) : (ofNumber cs).input = cs := by
  unfold ofNumber
  dsimp only
  split <;> simp [input]

theorem input_ofWord (cs : List Char) : (ofWord cs).input = cs := by
  simp [ofWord, input]

theorem input_ofShortOperator (c : Char) (cs : List Char) :
    (ofShortOperator c cs).input = c :: cs := by
  unfold ofShortOperator
  split <;> simp [input]

theorem input_ofOperator (c : Char) (cs : List Char) : (ofOperator c cs).input = c :: cs := by
  unfold ofOperator
  split
  · exact input_ofShortOperator c []
  · split
    · simp [input]
    · exact input_ofShortOperator c _

/-- Reading loses nothing. -/
theorem input_ofText (cs : List Char) : (ofText cs).input = cs := by
  unfold ofText
  split
  · rfl
  · next c cs =>
    split
    · next h => simp [input, h]
    · split
      · next h => rw [input_ofString, h]
      · split
        · next h => simp [input, h]
        · split
          · exact input_ofNumber _
          · split
            · exact input_ofWord _
            · exact input_ofOperator c cs

/-! ## A lexeme that was read -/

theorem lexeme_of_ofString {cs : List Char} {kind : Kind} {text rest : List Char}
    (h : ofString cs = .lexeme kind text rest) : Lexeme kind text := by
  unfold ofString at h
  split at h
  · cases h
  · dsimp only at h
    split at h
    · cases h
      exact .string List.all_takeWhile
    · cases h

theorem lexeme_of_ofNumber {c : Char} {cs : List Char} {kind : Kind} {text rest : List Char}
    (hc : isLeadingDigit c = true) (h : ofNumber (c :: cs) = .lexeme kind text rest) :
    Lexeme kind text := by
  have hd : c.isDigit = true := by simp_all [isLeadingDigit]
  unfold ofNumber at h
  dsimp only at h
  split at h
  · next hv =>
    rw [List.takeWhile_cons_of_pos hd] at h hv
    cases h
    exact .number hc List.all_takeWhile hv
  · cases h

theorem lexeme_of_ofWord {c : Char} {cs : List Char} {kind : Kind} {text rest : List Char}
    (hc : Word.isStart c = true) (h : ofWord (c :: cs) = .lexeme kind text rest) :
    Lexeme kind text := by
  unfold ofWord at h
  rw [List.takeWhile_cons_of_pos (Word.isPart_of_isStart hc)] at h
  cases h
  exact .word hc List.all_takeWhile

theorem lexeme_of_ofOperator {c : Char} {cs : List Char} {kind : Kind} {text rest : List Char}
    (h : ofOperator c cs = .lexeme kind text rest) : Lexeme kind text := by
  have one {o : Operator} {ds : List Char} (ho : Operator.ofSpelling? ds = some o) :
      Lexeme (.operator o) ds :=
    Operator.ofSpelling?_eq_some_iff.1 ho ▸ .operator o
  have short {ds : List Char} (h : ofShortOperator c ds = .lexeme kind text rest) :
      Lexeme kind text := by
    unfold ofShortOperator at h
    split at h
    · next ho =>
      cases h
      exact one ho
    · cases h
  unfold ofOperator at h
  split at h
  · exact short h
  · split at h
    · next ho =>
      cases h
      exact one ho
    · exact short h

/-- What is read as a lexeme is one. -/
theorem lexeme_of_ofText {cs : List Char} {kind : Kind} {text rest : List Char}
    (h : ofText cs = .lexeme kind text rest) : Lexeme kind text := by
  unfold ofText at h
  split at h
  · cases h
  · next c cs =>
    split at h
    · cases h
    · split at h
      · exact lexeme_of_ofString h
      · split at h
        · cases h
          exact .zero
        · split at h
          · next h0 hd => exact lexeme_of_ofNumber (by simp [isLeadingDigit, h0, hd]) h
          · split at h
            · next hw => exact lexeme_of_ofWord hw h
            · exact lexeme_of_ofOperator h

end Front

namespace Lexeme

theorem ne_nil {kind : Kind} {text : List Char} (h : Lexeme kind text) : text ≠ [] := by
  cases h with
  | operator o => cases o <;> simp [Operator.spelling]
  | _ => simp

end Lexeme

/-- Behind a lexeme there is less to read. -/
theorem Front.length_rest_lt {cs : List Char} {kind : Kind} {text rest : List Char}
    (h : Front.ofText cs = .lexeme kind text rest) : rest.length < cs.length := by
  have hi := Front.input_ofText cs
  rw [h, Front.input] at hi
  have := List.length_pos_iff.2 (Front.lexeme_of_ofText h).ne_nil
  rw [← hi, List.length_append]
  omega

end ImageScript
