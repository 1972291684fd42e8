-- Paragraphs: a text broken into lines of limited width.  Lines are broken at
-- spaces, and a word that is wider than a line is cut into pieces.  Every line
-- has its cost, and a text is broken in the way that costs least.

namespace ImageScript

/-! ## Words -/

/-- The words of a text, which stand between its spaces. -/
def wordsOf : List Char → List (List Char)
  | [] => [[]]
  | c :: cs =>
    if c = ' ' then
      [] :: wordsOf cs
    else
      match wordsOf cs with
      | [] => [[c]]
      | word :: words => (c :: word) :: words

/-- A part of a paragraph that is never broken, and whether a space follows
it. -/
structure Fragment where
  text : List Char
  spaced : Bool
deriving DecidableEq

/-- Cuts a word into fragments of at most `width` characters. -/
def fragmentsOf (width : Nat) (word : List Char) : List Fragment :=
  if _h : 0 < width ∧ width < word.length then
    { text := word.take width, spaced := false } :: fragmentsOf width (word.drop width)
  else
    [{ text := word, spaced := true }]
termination_by word.length
decreasing_by rw [List.length_drop]; omega

/-! ## Lines -/

/-- The text of a line.  The space behind its last fragment is left out. -/
def lineText : List Fragment → List Char
  | [] => []
  | [f] => f.text
  | f :: fs => f.text ++ List.replicate f.spaced.toNat ' ' ++ lineText fs

/-- What a line of `count` fragments and `columns` columns costs.  A new line
has a price, each column beyond the width has a higher one, and the room that is
left on a line costs its square.  The last line may leave room, but one short
word should not stand there alone. -/
def lineCost (width : Nat) (isLast : Bool) (count columns : Nat) : Nat :=
  1000 +
    if width < columns then (columns - width) * 2500
    else if !isLast then (width - columns) * (width - columns)
    else if count = 1 ∧ columns * 4 < width then 25
    else 0

/-! ## Plans -/

/-- A way to break fragments into lines: how many of them each line takes, and
what the lines cost. -/
structure Plan where
  counts : List Nat
  cost : Nat
deriving DecidableEq

/-- The plan for no fragments at all. -/
def Plan.empty : Plan := { counts := [], cost := 0 }

/-- Puts a line in front of the lines of a plan. -/
def Plan.under (width count columns : Nat) (p : Plan) : Plan where
  counts := count :: p.counts
  cost := lineCost width p.counts.isEmpty count columns + p.cost

/-- The plans whose first line takes one more fragment, two more, and so on,
when it holds `count` fragments on `used` columns already.  There is a plan for
what is left behind each of them. -/
def openings (width count used : Nat) : List Fragment → List Plan → List Plan
  | f :: fs, p :: ps =>
    let columns := used + f.text.length
    p.under width (count + 1) columns
      :: openings width (count + 1) (columns + f.spaced.toNat) fs ps
  | _, _ => []

/-- The cheapest plan for some fragments, and the cheapest for each of their
ends. -/
def cheapest (width : Nat) : List Fragment → Plan × List Plan
  | [] => (Plan.empty, [])
  | f :: fs =>
    let (p, ps) := cheapest width fs
    ((openings width 0 0 (f :: fs) (p :: ps)).minOn Plan.cost (List.cons_ne_nil _ _), p :: ps)

/-- Deals fragments out to lines. -/
def deal : List Nat → List Fragment → List (List Fragment)
  | [], _ => []
  | count :: counts, fs => fs.take count :: deal counts (fs.drop count)

/-- Breaks fragments into the lines that cost least. -/
def cheapestLines (width : Nat) (fs : List Fragment) : List (List Fragment) :=
  deal (cheapest width fs).1.counts fs

/-- Breaks a text into lines that are about `width` characters wide. -/
def breakLines (width : Nat) (text : List Char) : List (List Char) :=
  (cheapestLines width ((wordsOf text).flatMap (fragmentsOf width))).map lineText

end ImageScript
