-- The kinds that a token can have: the end of the input, identifiers,
-- literals, the sixteen keywords and the thirty operators, each with its
-- spelling and with the name that a token table prints for it.

namespace ImageScript

/-! ## Keywords, literals and operators -/

/-- The words that the language keeps for itself. -/
inductive Keyword where
  | image | pixel | int | string | void | boolean
  | write
  | height | width
  | beginIf | endIf | beginDo | endDo
  | red | green | blue
deriving DecidableEq

namespace Keyword

/-- How a keyword is written. -/
def text : Keyword → String
  | image => "image"
  | pixel => "pixel"
  | int => "int"
  | string => "string"
  | void => "void"
  | boolean => "boolean"
  | write => "write"
  | height => "height"
  | width => "width"
  | beginIf => "if"
  | endIf => "fi"
  | beginDo => "do"
  | endDo => "od"
  | red => "red"
  | green => "green"
  | blue => "blue"

/-- The name of a keyword in a token table. -/
def name : Keyword → String
  | image => "RES_image"
  | pixel => "RES_pixel"
  | int => "RES_int"
  | string => "RES_string"
  | void => "RES_void"
  | boolean => "RES_boolean"
  | write => "RES_write"
  | height => "RES_height"
  | width => "RES_width"
  | beginIf => "RES_if"
  | endIf => "RES_fi"
  | beginDo => "RES_do"
  | endDo => "RES_od"
  | red => "RES_red"
  | green => "RES_green"
  | blue => "RES_blue"

/-- Names and spellings are written down apart, and they agree. -/
theorem name_eq (k : Keyword) : k.name = "RES_" ++ k.text := by
  cases k <;> decide

/-- Every keyword. -/
def all : List Keyword :=
  [image, pixel, int, string, void, boolean, write, height, width,
    beginIf, endIf, beginDo, endDo, red, green, blue]

/-- The keyword that a word spells. -/
def ofText? (word : String) : Option Keyword :=
  all.find? fun k => k.text = word

theorem mem_all (k : Keyword) : k ∈ all := by
  cases k <;> decide

theorem ofText?_eq_some_iff {word : String} {k : Keyword} :
    ofText? word = some k ↔ k.text = word := by
  constructor
  · intro h
    simpa using List.find?_some h
  · rintro rfl
    cases k <;> decide

end Keyword

/-- The literals: numbers, quoted strings, truth values and named constants. -/
inductive Literal where
  | number | string | boolean | constant
deriving DecidableEq

/-- The operators and other marks, of one character or two. -/
inductive Operator where
  | comma | modulo | plus | divide | question | bang | semicolon | caret
  | leftParen | rightParen
  | leftBracket | rightBracket | box
  | minus | arrow
  | times | power
  | bitAnd | and
  | bitOr | or
  | less | lessOrEqual | blockOpen
  | greater | greaterOrEqual
  | assign | equal
  | colon | blockClose
deriving DecidableEq

namespace Operator

/-- How an operator is written. -/
def spelling : Operator → List Char
  | comma => [',']
  | modulo => ['%']
  | plus => ['+']
  | divide => ['/']
  | question => ['?']
  | bang => ['!']
  | semicolon => [';']
  | caret => ['^']
  | leftParen => ['(']
  | rightParen => [')']
  | leftBracket => ['[']
  | rightBracket => [']']
  | box => ['[', ']']
  | minus => ['-']
  | arrow => ['-', '>']
  | times => ['*']
  | power => ['*', '*']
  | bitAnd => ['&']
  | and => ['&', '&']
  | bitOr => ['|']
  | or => ['|', '|']
  | less => ['<']
  | lessOrEqual => ['<', '=']
  | blockOpen => ['<', ':']
  | greater => ['>']
  | greaterOrEqual => ['>', '=']
  | assign => ['=']
  | equal => ['=', '=']
  | colon => [':']
  | blockClose => [':', '>']

/-- The name of an operator in a token table. -/
def name : Operator → String
  | comma => "COMMA"
  | modulo => "MOD"
  | plus => "PLUS"
  | divide => "DIV"
  | question => "QUESTION"
  | bang => "BANG"
  | semicolon => "SEMI"
  | caret => "RETURN"
  | leftParen => "LPAREN"
  | rightParen => "RPAREN"
  | leftBracket => "LSQUARE"
  | rightBracket => "RSQUARE"
  | box => "BOX"
  | minus => "MINUS"
  | arrow => "RARROW"
  | times => "TIMES"
  | power => "EXP"
  | bitAnd => "BITAND"
  | and => "AND"
  | bitOr => "BITOR"
  | or => "OR"
  | less => "LT"
  | lessOrEqual => "LE"
  | blockOpen => "BLOCK_OPEN"
  | greater => "GT"
  | greaterOrEqual => "GE"
  | assign => "ASSIGN"
  | equal => "EQ"
  | colon => "COLON"
  | blockClose => "BLOCK_CLOSE"

/-- Every operator. -/
def all : List Operator :=
  [comma, modulo, plus, divide, question, bang, semicolon, caret, leftParen, rightParen,
    leftBracket, rightBracket, box, minus, arrow, times, power, bitAnd, and, bitOr, or,
    less, lessOrEqual, blockOpen, greater, greaterOrEqual, assign, equal, colon, blockClose]

/-- The operator that some characters spell. -/
def ofSpelling? (cs : List Char) : Option Operator :=
  all.find? fun o => o.spelling = cs

theorem ofSpelling?_eq_some_iff {cs : List Char} {o : Operator} :
    ofSpelling? cs = some o ↔ o.spelling = cs := by
  constructor
  · intro h
    simpa using List.find?_some h
  · rintro rfl
    cases o <;> decide

/-- An operator has one character or two. -/
theorem spelling_eq_one_or_two (o : Operator) :
    (∃ a, o.spelling = [a]) ∨ ∃ a b, o.spelling = [a, b] := by
  cases o <;> simp [spelling]

end Operator

/-! ## Kinds -/

/-- What a token is. -/
inductive Kind where
  | endOfInput
  | identifier
  | literal (l : Literal)
  | keyword (k : Keyword)
  | operator (o : Operator)
deriving DecidableEq

namespace Kind

/-- The name of a kind in a token table. -/
def name : Kind → String
  | endOfInput => "EOF"
  | identifier => "IDENT"
  | literal .number => "NUM_LIT"
  | literal .string => "STRING_LIT"
  | literal .boolean => "BOOLEAN_LIT"
  | literal .constant => "CONST"
  | keyword k => k.name
  | operator o => o.name

/-- Every kind. -/
def all : List Kind :=
  [endOfInput, identifier, literal .number, literal .string, literal .boolean,
      literal .constant] ++
    Keyword.all.map keyword ++ Operator.all.map operator

/-- The kind that a name stands for. -/
def ofName? (name : String) : Option Kind :=
  all.find? fun k => k.name = name

/-- No two kinds have the same name. -/
@[simp] theorem ofName?_name (k : Kind) : ofName? k.name = some k := by
  cases k with
  | literal l => cases l <;> decide
  | keyword k => cases k <;> decide
  | operator o => cases o <;> decide
  | _ => decide

/-- Names are printable and hold no space. -/
theorem toNat_of_mem_name {k : Kind} {c : Char} (h : c ∈ k.name.toList) :
    33 ≤ c.toNat ∧ c.toNat ≤ 126 := by
  have hall : k.name.toList.all (fun d => 33 ≤ d.toNat && d.toNat ≤ 126) = true := by
    cases k with
    | literal l => cases l <;> decide
    | keyword k => cases k <;> decide
    | operator o => cases o <;> decide
    | _ => decide
  simpa using List.all_eq_true.1 hall c h

/-- The kind is one of the keywords. -/
def isKeyword : Kind → Bool
  | keyword _ => true
  | _ => false

theorem isKeyword_iff {kind : Kind} :
    kind.isKeyword = true ↔ ∃ k : Keyword, kind = .keyword k := by
  cases kind <;> simp [isKeyword]

/-- The kind is one of the literals. -/
def isLiteral : Kind → Bool
  | literal _ => true
  | _ => false

end Kind

end ImageScript
