/-! Texts in pieces: between separators of any kind, and as lists of lines. -/

namespace LocoSounds

/-- The pieces with one more character at the front of the first. -/
def extendFirst (c : Char) : List (List Char) → List (List Char)
  | [] => [[c]]
  | piece :: more => (c :: piece) :: more

/-- The pieces of a list of characters, one more than it has separators. -/
def pieces (separator : Char) : List Char → List (List Char)
  | [] => [[]]
  | c :: rest =>
    if c = separator then [] :: pieces separator rest else extendFirst c (pieces separator rest)

/-- The lines of a text, one more than it has newlines. -/
def lines (text : String) : List String :=
  (pieces '\n' text.toList).map String.ofList

/-- The text of some lines, with a newline between each two. -/
def unlines (lines : List String) : String := "\n".intercalate lines

/-- A line behind a number of spaces. -/
def indentLine (width : Nat) (line : String) : String :=
  String.ofList (List.replicate width ' ') ++ line

/-- A text with every line behind a number of spaces. -/
def indent (width : Nat) (text : String) : String :=
  unlines ((lines text).map (indentLine width))

end LocoSounds
