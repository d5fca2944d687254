import LocoSounds.Yaml.Fault
import LocoSounds.Yaml.Spot
import LocoSounds.Text.Codes

/-! Scalars in quotes. -/

namespace LocoSounds.Yaml

/-- The character that a one-letter escape stands for. -/
def escaped? (c : Char) : Option Char :=
  match c with
  | '0' => some endMark
  | 'a' => some (Char.ofNat 0x7)
  | 'b' => some (Char.ofNat 0x8)
  | 't' => some '\t'
  | '\t' => some '\t'
  | 'n' => some '\n'
  | 'v' => some (Char.ofNat 0xb)
  | 'f' => some (Char.ofNat 0xc)
  | 'r' => some '\r'
  | 'e' => some (Char.ofNat 0x1b)
  | ' ' => some ' '
  | '"' => some '"'
  | '\\' => some '\\'
  | '/' => some '/'
  | 'N' => some (Char.ofNat 0x85)
  | '_' => some (Char.ofNat 0xa0)
  | 'L' => some (Char.ofNat 0x2028)
  | 'P' => some (Char.ofNat 0x2029)
  | _ => none

/-- The number of digits that follow an escape by code. -/
def escapeWidth? (c : Char) : Option Nat :=
  match c with
  | 'x' => some 2
  | 'u' => some 4
  | 'U' => some 8
  | _ => none

/-- The code that follows an escape mark, and what follows it. -/
def escapeCode? (rest : List Spot) : Option (Nat × List Spot) := do
  let width ← escapeWidth? (front rest)
  let digits := ((rest.drop 1).take width).map (·.char)
  let code ← hexNumber? digits
  if digits.length = width then some (code, rest.drop (1 + width)) else none

/-- The character of an escape by code, and what follows it. Halves of a pair stay halves. -/
def escapeByCode (rest : List Spot) : Except Fault (Char × List Spot) :=
  match escapeCode? rest with
  | none => .error .badEscape
  | some (code, rest) =>
    if 0x80000000 ≤ code then .error (.value .codeTooLarge)
    else if 0x110000 ≤ code then .error (.value .codeOutOfRange)
    else .ok (charOfCode code, rest)

/-- The breaks of empty lines at the front, and what follows them and the blanks of the next line. -/
def quotedBreaks (fuel : Nat) (rest : List Spot) : Except Fault (List Char × List Spot) :=
  match fuel with
  | 0 => .ok ([], rest)
  | fuel + 1 =>
    if atDocumentMark rest then .error .unclosedQuote
    else
      let rest := dropChars (fun c => c = ' ' || c = '\t') rest
      match splitBreak? rest with
      | none => .ok ([], rest)
      | some (c, rest) => do
        let (breaks, rest) ← quotedBreaks fuel rest
        .ok (c :: breaks, rest)

/-- The text of a scalar up to its closing quote, and what follows the quote. -/
def quotedChars (fuel : Nat) (quote : Char) (rest : List Spot) :
    Except Fault (List Char × List Spot) :=
  match fuel with
  | 0 => .error .unclosedQuote
  | fuel + 1 =>
    let c := front rest
    let tail := rest.drop 1
    if c = quote then
      -- A single quote written twice stands for itself.
      if quote = '\'' && front tail = '\'' then do
        let (chars, rest) ← quotedChars fuel quote (tail.drop 1)
        .ok ('\'' :: chars, rest)
      else .ok ([], tail)
    else if c = endMark then .error .unclosedQuote
    else if c = '\\' && quote = '"' then
      match escaped? (front tail), splitBreak? tail with
      | some escaped, _ => do
        let (chars, rest) ← quotedChars fuel quote (tail.drop 1)
        .ok (escaped :: chars, rest)
      | none, some (_, rest) => do
        -- A line break that is escaped leaves only the breaks of empty lines after it.
        let (breaks, rest) ← quotedBreaks fuel rest
        let (chars, rest) ← quotedChars fuel quote rest
        .ok (breaks ++ chars, rest)
      | none, none => do
        let (escaped, rest) ← escapeByCode tail
        let (chars, rest) ← quotedChars fuel quote rest
        .ok (escaped :: chars, rest)
    else if c = ' ' || c = '\t' || isBreak c then
      let (blanks, rest) := spanChars (fun c => c = ' ' || c = '\t') rest
      match splitBreak? rest with
      | none =>
        if front rest = endMark then .error .unclosedQuote
        else do
          let (chars, rest) ← quotedChars fuel quote rest
          .ok (blanks ++ chars, rest)
      | some (lineBreak, rest) => do
        -- A single break is a space, and more of them count one less.
        let (breaks, rest) ← quotedBreaks fuel rest
        let folded := if lineBreak ≠ '\n' then lineBreak :: breaks
          else if breaks.isEmpty then [' '] else breaks
        let (chars, rest) ← quotedChars fuel quote rest
        .ok (folded ++ chars, rest)
    else do
      let (chars, rest) ← quotedChars fuel quote tail
      .ok (c :: chars, rest)

/-- The scalar whose opening quote is at the front of a text of at most the given size, and what
follows it. -/
def quotedScalar (size : Nat) (rest : List Spot) : Except Fault (String × List Spot) := do
  let (chars, after) ← quotedChars size (front rest) (rest.drop 1)
  .ok (String.ofList chars, after)

end LocoSounds.Yaml
