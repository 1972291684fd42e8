-- The prompt: every line that is typed is a script of its own, answered by its
-- table or by the report of its failure.  Control characters are shown in a
-- readable form, so that no answer can disturb the terminal.
import ImageScript.Report
import ImageScript.Lexer
import ImageScript.Table

namespace ImageScript.Prompt

/-! ## Readable control characters -/

/-- A number in four hexadecimal digits, in capital letters. -/
def fourDigits (n : Nat) : List Char :=
  ((Nat.toDigits 16 n).map Char.toUpper).leftpad 4 '0'

/-- A character as the prompt shows it.  Control characters have a caret form
or a code point; line feeds stay. -/
def showChar (c : Char) : List Char :=
  if c = '\n' then [c]
  else if c.toNat < 32 then ['^', Char.ofNat (c.toNat + 64)]
  else if (127 ≤ c.toNat ∧ c.toNat ≤ 159) ∨ c = '\u2028' ∨ c = '\u2029' then
    'U' :: '+' :: fourDigits c.toNat
  else [c]

/-- A text as the prompt shows it. -/
def showText (text : String) : String :=
  String.ofList (text.toList.flatMap showChar)

/-! ## Answers -/

/-- A typed line without the carriage returns and line feeds at its end. -/
def trimLine (line : String) : String :=
  String.ofList
    (line.toList.reverse.dropWhile fun c => c = '\r' || c = '\n').reverse

/-- What the prompt answers to a script. -/
def answer (source : String) : String :=
  match lex source with
  | .ok tokens => showText (Table.text tokens ++ "\n")
  | .error f => showText (Report.text f source ++ "\n")

/-- What the prompt answers to a typed line. -/
def respond (line : String) : String :=
  answer (trimLine line)

/-- The lines of an input, each without the line feed that ends it. -/
def typedLines (input : String) : List String :=
  (input.toList.foldr step []).map String.ofList
where
  /-- Puts a character in front of what follows it. -/
  step (c : Char) (lines : List (List Char)) : List (List Char) :=
    if c = '\n' then [] :: lines
    else match lines with
      | [] => [[c]]
      | line :: lines => (c :: line) :: lines

/-- All that the prompt prints for an input. -/
def session (input : String) : String :=
  String.join ((typedLines input).map respond)

end ImageScript.Prompt
