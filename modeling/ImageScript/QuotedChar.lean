-- Characters as messages show them: between single quotes, with an escape
-- for everything that would not be seen, that would run into the quote before
-- it, or that would end the quotation.
import ImageScript.Unicode.GraphemeExtend
import ImageScript.Unicode.Ignorable
import ImageScript.Unicode.Unprintable

namespace ImageScript

/-! ## Escapes -/

/-- The characters that have a short escape, each with the letter that follows
the backslash. -/
def shortEscapes : List (Char × Char) :=
  [('\x00', '0'), ('\t', 't'), ('\r', 'r'), ('\n', 'n'), ('\x27', '\x27'), ('\\', '\\')]

/-- The escape that gives a character by its code point, in hexadecimal digits
and between braces. -/
def codePointEscape (c : Char) : List Char :=
  '\\' :: 'u' :: '\x7b' :: Nat.toDigits 16 c.toNat ++ ['\x7d']

/-- A character as it stands in a quotation.  What can be seen stands for
itself. -/
def escapeChar (c : Char) : List Char :=
  match shortEscapes.lookup c with
  | some letter => ['\\', letter]
  | none =>
    if Unicode.extendsGrapheme c || Unicode.isUnprintable c || Unicode.isIgnorable c then
      codePointEscape c
    else
      [c]

/-- A character between single quotes. -/
def quoteChar (c : Char) : String :=
  String.ofList ('\x27' :: escapeChar c ++ ['\x27'])

end ImageScript
