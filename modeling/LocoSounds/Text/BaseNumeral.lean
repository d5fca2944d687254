import LocoSounds.Text.Codes

/-! Numerals to a base: digits of any script with a sign, with blanks around them. Each script has its
ten decimal digits in a row, from its zero on. -/

namespace LocoSounds

/-- The zeros of all scripts, in the order of their code points. -/
def decimalZeros : List Nat := [
  0x30, 0x660, 0x6f0, 0x7c0, 0x966, 0x9e6, 0xa66, 0xae6, 0xb66, 0xbe6, 0xc66, 0xce6, 0xd66, 0xde6,
  0xe50, 0xed0, 0xf20, 0x1040, 0x1090, 0x17e0, 0x1810, 0x1946, 0x19d0, 0x1a80, 0x1a90, 0x1b50,
  0x1bb0, 0x1c40, 0x1c50, 0xa620, 0xa8d0, 0xa900, 0xa9d0, 0xa9f0, 0xaa50, 0xabf0, 0xff10, 0x104a0,
  0x10d30, 0x11066, 0x110f0, 0x11136, 0x111d0, 0x112f0, 0x11450, 0x114d0, 0x11650, 0x116c0, 0x11730,
  0x118e0, 0x11950, 0x11c50, 0x11d50, 0x11da0, 0x16a60, 0x16ac0, 0x16b50, 0x1d7ce, 0x1d7d8, 0x1d7e2,
  0x1d7ec, 0x1d7f6, 0x1e140, 0x1e2f0, 0x1e950, 0x1fbf0]

/-- The value of a decimal digit of some script. -/
def decimalValue? (c : Char) : Option Nat :=
  decimalZeros.findSome? fun first =>
    if first ≤ c.toNat ∧ c.toNat < first + 10 then some (c.toNat - first) else none

/-- A character with a decimal digit of any script written as the common one. -/
def commonDigit (c : Char) : Char :=
  match decimalValue? c with
  | some value => Char.ofNat ('0'.toNat + value)
  | none => c

/-- Why a text is no numeral. -/
inductive NumeralFault where
  | notNumeral
  | tooManyDigits (count : Nat)
  deriving DecidableEq

/-- A digit below a base. -/
def digitBelow? (base : Nat) (c : Char) : Option Nat :=
  (hexValue? c).filter (· < base)

/-- The letter that marks a base where it follows a zero. -/
def baseLetter? (base : Nat) : Option Char :=
  match base with
  | 2 => some 'b'
  | 8 => some 'o'
  | 16 => some 'x'
  | _ => none

/-- A numeral without the mark of its base. -/
def dropBaseMark (base : Nat) (chars : List Char) : List Char :=
  match chars with
  | '0' :: letter :: rest => if baseLetter? base = some letter.toLower then rest else chars
  | _ => chars

/-- The number that digits to a base stand for. -/
def valueToBase (base : Nat) (digits : List Char) : Nat :=
  (digits.filterMap (digitBelow? base)).foldl (fun n digit => base * n + digit) 0

/-- The integer that a text stands for to a base. Decimal digits are limited in number. -/
def readToBase (base : Nat) (text : String) : Except NumeralFault Int :=
  let (negative, size) := splitSign ((text.toList.map commonDigit).dropWhile isBlank)
  let chars := dropBaseMark base size
  let digits := chars.takeWhile fun c => (digitBelow? base c).isSome
  if base = 10 ∧ longestInteger < digits.length then .error (.tooManyDigits digits.length)
  else if digits.isEmpty || !(chars.drop digits.length).all isBlank then .error .notNumeral
  else .ok (Binary64.signed negative (valueToBase base digits))

/-- What follows a character, without underscores, each of which stands between two digits. -/
def dropBetweenDigits? (before : Char) : List Char → Option (List Char)
  | [] => if before = '_' then none else some []
  | c :: rest =>
    if c = '_' then if before.isDigit then dropBetweenDigits? c rest else none
    else if before = '_' ∧ !c.isDigit then none
    else (dropBetweenDigits? c rest).map (c :: ·)

/-- The number that a text stands for, in decimal digits with underscores between them. -/
def readFraction? (text : String) : Option Binary64 := do
  let chars ← dropBetweenDigits? ' ' (trimBlanks (text.toList.map commonDigit))
  readBareNumber? chars

end LocoSounds
