/-! Texts as lists of characters that know their place. -/

namespace LocoSounds.Yaml

/-- A character with its line, its column and the number of characters before it. -/
structure Spot where
  char : Char
  line : Nat
  column : Nat
  offset : Nat

/-- The character that marks the end of a text, which no text may hold. -/
def endMark : Char := Char.ofNat 0

/-- Characters that end a line. -/
def isBreak (c : Char) : Bool :=
  c = '\n' || c = '\r' || c.toNat = 0x85 || c.toNat = 0x2028 || c.toNat = 0x2029

/-- A line ends here. -/
def isBreakOrEnd (c : Char) : Bool := isBreak c || c = endMark

/-- What separates words on a line ends here. -/
def isGap (c : Char) : Bool := isBreakOrEnd c || c = ' ' || c = '\t'

/-- A character that may stand in a document. -/
def isAllowed (c : Char) : Bool :=
  let code := c.toNat
  code = 0x9 || code = 0xa || code = 0xd || (0x20 ≤ code && code ≤ 0x7e) || code = 0x85
    || (0xa0 ≤ code && code ≤ 0xd7ff) || (0xe000 ≤ code && code ≤ 0xfffd) || 0x10000 ≤ code

/-- The spots of characters from a place on, with the end mark after them. -/
def spotsFrom (line column offset : Nat) : List Char → List Spot
  | [] => [⟨endMark, line, column, offset⟩]
  | c :: rest =>
    let newLine := isBreak c && !(c = '\r' && rest.head? = some '\n')
    -- A byte order mark takes no column.
    ⟨c, line, column, offset⟩ ::
      if newLine then spotsFrom (line + 1) 0 (offset + 1) rest
      else spotsFrom line (if c.toNat = 0xfeff then column else column + 1) (offset + 1) rest

/-- The spots of a text. -/
def spots (text : String) : List Spot := spotsFrom 0 0 0 text.toList

/-- The character at the front. -/
def front (rest : List Spot) : Char := (rest.head?.map (·.char)).getD endMark

/-- The character some places behind the front. -/
def peek (rest : List Spot) (distance : Nat) : Char := front (rest.drop distance)

/-- The column of the front. -/
def column (rest : List Spot) : Nat := (rest.head?.map (·.column)).getD 0

/-- The characters at the front that pass a test, and what follows them. -/
def spanChars (test : Char → Bool) (rest : List Spot) : List Char × List Spot :=
  ((rest.takeWhile (test ·.char)).map (·.char), rest.dropWhile (test ·.char))

/-- What follows the characters at the front that pass a test. -/
def dropChars (test : Char → Bool) (rest : List Spot) : List Spot := rest.dropWhile (test ·.char)

/-- The line break at the front, if there is one, and what follows it. Most breaks count as newlines. -/
def splitBreak? (rest : List Spot) : Option (Char × List Spot) :=
  let c := front rest
  if c = '\r' && peek rest 1 = '\n' then some ('\n', rest.drop 2)
  else if c.toNat = 0x2028 || c.toNat = 0x2029 then some (c, rest.drop 1)
  else if isBreak c then some ('\n', rest.drop 1)
  else none

/-- What follows blanks, comments and line breaks, and whether a line ended among them. -/
def dropBlanks (inComment broken : Bool) : List Spot → Bool × List Spot
  | [] => (broken, [])
  | spot :: rest =>
    if isBreak spot.char then dropBlanks false true rest
    else if spot.char = ' ' || spot.char = '#' || (inComment && spot.char ≠ endMark) then
      dropBlanks (inComment || spot.char = '#') broken rest
    else (broken, spot :: rest)

/-- A mark between documents stands at the front: three equal characters by themselves. -/
def atDocumentMark (rest : List Spot) : Bool :=
  let mark := (rest.take 3).map (·.char)
  (mark = ['-', '-', '-'] || mark = ['.', '.', '.']) && isGap (peek rest 3)

/-- What follows blanks and a comment up to the end of the line, where nothing else may stand. -/
def dropLineEnd? (rest : List Spot) : Option (List Spot) :=
  let rest := dropChars (· = ' ') rest
  let rest := if front rest = '#' then dropChars (! isBreakOrEnd ·) rest else rest
  if isBreakOrEnd (front rest) then
    some (match splitBreak? rest with
      | some (_, rest) => rest
      | none => rest)
  else none

end LocoSounds.Yaml
