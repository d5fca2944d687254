import LocoSounds.Text.Codes
import LocoSounds.Text.VisibleTable

/-! Quoted text: every character visible, the quote chosen so that fewest are escaped. -/

namespace LocoSounds

/-- The last `width` digits of a number to base sixteen, in lower case. -/
def hexDigits (width n : Nat) : List Char :=
  let digits := Nat.toDigits 16 n
  List.replicate (width - digits.length) '0' ++ digits

/-- A character without a visible form is escaped by its code. -/
def isInvisible (c : Char) : Bool :=
  if c.toNat < 0x7f then c.toNat < 0x20 else CodeRange.anyContains invisibleRanges c

/-- A character as it is written between quotes, where some characters have no visible form. -/
def escapeChar (isHidden : Char → Bool) (quote c : Char) : List Char :=
  if c = quote ∨ c = '\\' then ['\\', c]
  else if c = '\n' then ['\\', 'n']
  else if c = '\r' then ['\\', 'r']
  else if c = '\t' then ['\\', 't']
  else if isHidden c then
    let code := codeOfChar c
    if code < 0x100 then ['\\', 'x'] ++ hexDigits 2 code
    else if code < 0x10000 then ['\\', 'u'] ++ hexDigits 4 code
    else ['\\', 'U'] ++ hexDigits 8 code
  else [c]

/-- Characters between single quotes, or between double quotes if there are single ones and no
double ones. -/
def betweenQuotes (isHidden : Char → Bool) (chars : List Char) : List Char :=
  let quote := if chars.contains '\'' && !chars.contains '"' then '"' else '\''
  quote :: chars.flatMap (escapeChar isHidden quote) ++ [quote]

/-- A text between quotes. -/
def quoted (text : String) : String :=
  String.ofList (betweenQuotes isInvisible text.toList)

/-- Bytes between quotes, those of common visible characters as these, with a mark in front. -/
def quotedBytes (bytes : List UInt8) : String :=
  let isHidden := fun (c : Char) => c.toNat < 0x20 || 0x7f ≤ c.toNat
  String.ofList ('b' :: betweenQuotes isHidden (bytes.map fun byte => Char.ofNat byte.toNat))

end LocoSounds
