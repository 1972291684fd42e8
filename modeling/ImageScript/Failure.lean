-- What can be wrong with a script, how each fault is put into words, and
-- where it was found.
import ImageScript.QuotedChar
import ImageScript.Token

namespace ImageScript

/-- A reason why no token can be read. -/
inductive Fault where
  /-- No token starts with this character. -/
  | unexpectedCharacter (c : Char)
  /-- A comment starts with two hashes, and here is only one. -/
  | loneHash
  /-- Strings hold no such character. -/
  | illegalInString (c : Char)
  /-- The script ends inside a string. -/
  | unterminatedString
  /-- The digits spell a number that is too large. -/
  | numberTooLarge (digits : String)
deriving DecidableEq

/-- A fault in words. -/
def Fault.message : Fault → String
  | unexpectedCharacter c => "Unexpected character " ++ quoteChar c
  | loneHash => "Expected \x60#\x60 after \x60#\x60 to start a comment"
  | illegalInString c => "Illegal character " ++ quoteChar c ++ " in string literal"
  | unterminatedString => "Unterminated string literal"
  | numberTooLarge digits => "Integer literal " ++ digits ++ " does not fit in 32 bits"

/-- A fault and the bytes of the script that it lies in. -/
structure Failure where
  fault : Fault
  start : Position
  length : Nat
deriving DecidableEq

namespace Failure

/-- The stretch of the script at fault. -/
def span (f : Failure) : Span :=
  ⟨f.start.offset, f.length⟩

/-- The fault in words. -/
def message (f : Failure) : String :=
  f.fault.message

/-- The code that all failures of this kind are reported under. -/
def code : String := "imagelex::lex"

/-- What is written beside the stretch at fault. -/
def label : String := "here"

end Failure

end ImageScript
