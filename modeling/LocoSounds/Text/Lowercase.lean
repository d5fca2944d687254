import LocoSounds.Text.CaseTable

/-! Lower-case forms of text, by the full Unicode mapping. -/

namespace LocoSounds

/-- The run of capital letters that a character belongs to. -/
def CaseRun.contains (run : CaseRun) (code : Nat) : Bool :=
  run.first ≤ code && code ≤ run.last && (code - run.first) % run.step = 0

/-- The lower-case form of one character by itself. -/
def lowercaseChar (c : Char) : List Char :=
  if c.toNat < 0x80 then [c.toLower]
  -- The dotted capital I is the one letter whose lower-case form is two characters.
  else if c.toNat = 0x130 then ['i', Char.ofNat 0x307]
  else match caseRuns.find? (·.contains c.toNat) with
    | some run => [Char.ofNat (c.toNat + run.shift).toNat]
    | none => [c]

/-- The nearest character of a run that case rules do not skip has a case. -/
def nextIsCased (chars : List Char) : Bool :=
  match chars.dropWhile (CodeRange.anyContains caseIgnorableRanges) with
  | [] => false
  | c :: _ => CodeRange.anyContains casedRanges c

/-- Lower-case forms of the characters that follow `before`, whose nearest character comes first. -/
def lowercaseFrom (before : List Char) : List Char → List Char
  | [] => []
  | c :: rest =>
    -- A capital sigma that ends a word has a lower-case form of its own.
    (if c = 'Σ' then [if nextIsCased before && !nextIsCased rest then 'ς' else 'σ']
      else lowercaseChar c) ++ lowercaseFrom (c :: before) rest

/-- The lower-case form of a text, under which texts that differ only in case agree. -/
def lowercase (text : String) : String :=
  String.ofList (lowercaseFrom [] text.toList)

end LocoSounds
