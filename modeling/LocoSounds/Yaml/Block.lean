import LocoSounds.Yaml.Fault
import LocoSounds.Yaml.Spot
import LocoSounds.Text.Numeral

/-! Scalars that are indented blocks of text. -/

namespace LocoSounds.Yaml

/-- What becomes of the line breaks at the end of a block. -/
inductive Chomping where
  | strip
  | clip
  | keep
  deriving DecidableEq

/-- The sign that says what becomes of the last breaks. -/
def chomping? (c : Char) : Option Chomping :=
  if c = '+' then some .keep else if c = '-' then some .strip else none

/-- The chomping and the indentation that a block's header gives, and what follows the header. -/
def blockHeader (rest : List Spot) : Except Fault (Chomping × Option Nat × List Spot) :=
  let indicator := fun (c : Char) => c.isDigit || c = '+' || c = '-'
  let marks := ((rest.take 2).map (·.char)).takeWhile indicator
  let rest := rest.drop marks.length
  let chomping := (marks.findSome? chomping?).getD .clip
  let increment := (marks.find? Char.isDigit).map digitValue
  -- There is at most one mark of each sort, and an indentation is above zero.
  let repeated := marks.length = 2 && (marks.filter Char.isDigit).length ≠ 1
  if increment = some 0 || repeated || !(isBreakOrEnd (front rest) || front rest = ' ') then
    .error .badHeader
  else match dropLineEnd? rest with
    | none => .error .badHeader
    | some rest => .ok (chomping, increment, rest)

/-- The breaks of empty lines at the front, with the deepest indentation among them. -/
def leadingBreaks (fuel : Nat) (deepest : Nat) (rest : List Spot) : List Char × Nat × List Spot :=
  match fuel with
  | 0 => ([], deepest, rest)
  | fuel + 1 =>
    let rest := dropChars (· = ' ') rest
    let deepest := max deepest (column rest)
    match splitBreak? rest with
    | none => ([], deepest, rest)
    | some (c, rest) =>
      let (breaks, deepest, rest) := leadingBreaks fuel deepest rest
      (c :: breaks, deepest, rest)

/-- What follows the spaces at the front, up to a column. -/
def dropIndent (indent : Nat) : List Spot → List Spot
  | [] => []
  | spot :: rest =>
    if spot.char = ' ' ∧ spot.column < indent then dropIndent indent rest else spot :: rest

/-- The breaks of empty lines at the front, and what follows them and the next line's indentation. -/
def blockBreaks (fuel indent : Nat) (rest : List Spot) : List Char × List Spot :=
  match fuel with
  | 0 => ([], rest)
  | fuel + 1 =>
    let rest := dropIndent indent rest
    match splitBreak? rest with
    | none => ([], rest)
    | some (c, rest) =>
      let (breaks, rest) := blockBreaks fuel indent rest
      (c :: breaks, rest)

/-- The lines of a block from the front on, behind the breaks before them. -/
def blockLines (fuel : Nat) (folded : Bool) (chomping : Chomping) (indent : Nat)
    (breaks : List Char) (rest : List Spot) : List Char × List Spot :=
  match fuel with
  | 0 => ([], rest)
  | fuel + 1 =>
    let atLine := fun (rest : List Spot) => column rest = indent && front rest ≠ endMark
    let isBlank := fun (c : Char) => c = ' ' || c = '\t'
    if !atLine rest then (if chomping = .keep then breaks else [], rest)
    else
      let startsBlank := isBlank (front rest)
      let (line, rest) := spanChars (! isBreakOrEnd ·) rest
      let (lineBreak, rest) := match splitBreak? rest with
        | some (c, rest) => ([c], rest)
        | none => ([], rest)
      let (next, rest) := blockBreaks fuel indent rest
      if atLine rest then
        -- Lines are joined where both start with a word.
        let joint := if folded && lineBreak = ['\n'] && !startsBlank && !isBlank (front rest) then
            if next.isEmpty then [' '] else []
          else lineBreak
        let (chars, rest) := blockLines fuel folded chomping indent next rest
        (breaks ++ line ++ joint ++ chars, rest)
      else
        let ending := match chomping with
          | .strip => []
          | .clip => lineBreak
          | .keep => lineBreak ++ next
        (breaks ++ line ++ ending, rest)

/-- The block whose mark is at the front of a text of at most the given size, and what follows it. -/
def blockScalar (size : Nat) (indent : Int) (rest : List Spot) : Except Fault (String × List Spot) := do
  let folded := front rest = '>'
  let (chomping, increment, rest) ← blockHeader (rest.drop 1)
  let least := (max (indent + 1) 1).toNat
  let (breaks, indent, rest) := match increment with
    | some increment =>
      let (breaks, rest) := blockBreaks size (least + increment - 1) rest
      (breaks, least + increment - 1, rest)
    | none =>
      let (breaks, deepest, rest) := leadingBreaks size 0 rest
      (breaks, max least deepest, rest)
  let (chars, rest) := blockLines size folded chomping indent breaks rest
  .ok (String.ofList chars, rest)

end LocoSounds.Yaml
