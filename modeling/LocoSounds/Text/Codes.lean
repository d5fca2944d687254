import LocoSounds.Text.Numeral

/-! Codes of characters: written to base sixteen, as halves of pairs, and in blocks as tables list
them. -/

namespace LocoSounds

/-- The value of a digit to base sixteen. -/
def hexValue? (c : Char) : Option Nat :=
  if c.isDigit then some (digitValue c)
  else if 'a' ≤ c ∧ c ≤ 'f' then some (c.toNat - 'a'.toNat + 10)
  else if 'A' ≤ c ∧ c ≤ 'F' then some (c.toNat - 'A'.toNat + 10)
  else none

/-- The number that some digits to base sixteen stand for. -/
def hexNumber? (digits : List Char) : Option Nat :=
  digits.foldl (fun number c => do return 16 * (← number) + (← hexValue? c)) (some 0)

/-- A code that is the first half of a pair. -/
def isHighSurrogate (code : Nat) : Bool := 0xd800 ≤ code && code < 0xdc00

/-- A code that is the second half of a pair. -/
def isLowSurrogate (code : Nat) : Bool := 0xdc00 ≤ code && code < 0xe000

/-- The character of two halves. -/
def pairedChar (high low : Nat) : Char :=
  Char.ofNat (0x10000 + (high - 0xd800) * 0x400 + (low - 0xdc00))

/-- A code that is half of a pair. -/
def isSurrogate (code : Nat) : Bool := isHighSurrogate code || isLowSurrogate code

/-- The distance from a half of a pair to the private character that stands for it. -/
def surrogateShift : Nat := 0xf0000

/-- The character of a code. A half of a pair by itself, which is no character, is stood for by the
private character `surrogateShift` codes after it. -/
def charOfCode (code : Nat) : Char :=
  if isSurrogate code then Char.ofNat (code + surrogateShift) else Char.ofNat code

/-- The code that a character stands for. -/
def codeOfChar (c : Char) : Nat :=
  if isSurrogate (c.toNat - surrogateShift) then c.toNat - surrogateShift else c.toNat

/-- A text in which no half of a pair stands by itself. -/
def isWellFormed (text : String) : Bool := !text.toList.any fun c => isSurrogate (codeOfChar c)

/-- A block of code points, both ends included. -/
structure CodeRange where
  first : Nat
  last : Nat

/-- The block holds a code point. -/
def CodeRange.contains (range : CodeRange) (code : Nat) : Bool :=
  range.first ≤ code && code ≤ range.last

/-- A table of blocks holds a character. -/
def CodeRange.anyContains (ranges : List CodeRange) (c : Char) : Bool :=
  ranges.any (·.contains c.toNat)

end LocoSounds
