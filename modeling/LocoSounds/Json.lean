import LocoSounds.Text.Codes
import LocoSounds.Token

/-! Reading JSON texts as document values. -/

namespace LocoSounds.Json

/-- Characters that may stand between values. -/
def isSpace (c : Char) : Bool := c = ' ' || c = '\t' || c = '\n' || c = '\r'

/-- What follows the spaces at the front. -/
def skipSpaces (chars : List Char) : List Char := chars.dropWhile isSpace

/-- The character that a one-letter escape stands for. -/
def escaped? (c : Char) : Option Char :=
  match c with
  | '"' => some '"'
  | '\\' => some '\\'
  | '/' => some '/'
  | 'b' => some (Char.ofNat 0x8)
  | 'f' => some (Char.ofNat 0xc)
  | 'n' => some '\n'
  | 'r' => some '\r'
  | 't' => some '\t'
  | _ => none

/-- The code of the second half of a pair, if some characters write an escape of it. -/
def lowSurrogate? (mark letter : Char) (digits : List Char) : Option Nat :=
  if mark = '\\' ∧ letter = 'u' then (hexNumber? digits).filter isLowSurrogate else none

/-- The characters of a text up to its closing quote, and what follows the quote. -/
def textChars? : List Char → Option (List Char × List Char)
  | [] => none
  | '"' :: rest => some ([], rest)
  | '\\' :: 'u' :: a :: b :: c :: d :: rest =>
    match hexNumber? [a, b, c, d] with
    | none => none
    | some code =>
      match rest with
      | mark :: letter :: e :: f :: g :: h :: after =>
        match if isHighSurrogate code then lowSurrogate? mark letter [e, f, g, h] else none with
        | some low => (textChars? after).map fun (chars, rest) => (pairedChar code low :: chars, rest)
        | none =>
          (textChars? (mark :: letter :: e :: f :: g :: h :: after)).map fun (chars, rest) =>
            (charOfCode code :: chars, rest)
      | short => (textChars? short).map fun (chars, rest) => (charOfCode code :: chars, rest)
  | '\\' :: c :: rest =>
    match escaped? c with
    | none => none
    | some escaped => (textChars? rest).map fun (chars, rest) => (escaped :: chars, rest)
  | c :: rest =>
    -- Characters without a visible form have to be escaped.
    if c.toNat < 0x20 then none
    else (textChars? rest).map fun (chars, rest) => (c :: chars, rest)

/-- The digits of a whole number, which starts with a zero only if it is one, and what follows. -/
def wholeDigits? (chars : List Char) : Option (List Char × List Char) :=
  match chars with
  | '0' :: rest => some (['0'], rest)
  | c :: _ => if c.isDigit then some (chars.takeWhile Char.isDigit, chars.dropWhile Char.isDigit) else none
  | [] => none

/-- A point with digits behind it, if they are at the front, and what follows. -/
def fractionChars (chars : List Char) : List Char × List Char :=
  match chars with
  | '.' :: rest =>
    let digits := rest.takeWhile Char.isDigit
    if digits.isEmpty then ([], chars) else ('.' :: digits, rest.drop digits.length)
  | _ => ([], chars)

/-- A power of ten, if it is at the front, and what follows. -/
def exponentChars (chars : List Char) : List Char × List Char :=
  match chars with
  | mark :: rest =>
    let (negative, unsigned) := splitSign rest
    let digits := unsigned.takeWhile Char.isDigit
    if (mark = 'e' ∨ mark = 'E') ∧ !digits.isEmpty then
      (mark :: (if negative then '-' else '+') :: digits, unsigned.drop digits.length)
    else ([], chars)
  | [] => ([], chars)

/-- The number at the front, and what follows it. -/
def number? (chars : List Char) : Option (Scalar × List Char) := do
  let (negative, unsigned) := match chars with
    | '-' :: rest => (true, rest)
    | _ => (false, chars)
  let (whole, rest) ← wholeDigits? unsigned
  let (fraction, rest) := fractionChars rest
  let (exponent, rest) := exponentChars rest
  if fraction.isEmpty && exponent.isEmpty then
    -- An integer of more digits than are read makes the text no JSON.
    if longestInteger < whole.length then none
    else some (.int (Binary64.signed negative (digitsValue whole)), rest)
  else some (.float (← readDecimal? negative (whole ++ fraction ++ exponent)), rest)

/-- The words that stand for values. -/
def words : List (String × Scalar) :=
  [("null", .null), ("true", .bool true), ("false", .bool false), ("NaN", .float .nan),
    ("Infinity", .float (.infinity false)), ("-Infinity", .float (.infinity true))]

/-- The word or number at the front, and what follows it. -/
def scalar? (chars : List Char) : Option (Scalar × List Char) :=
  match words.find? fun (word, _) => word.toList.isPrefixOf chars with
  | some (word, value) => some (value, chars.drop word.length)
  | none => number? chars

mutual

/-- The value at the front, and what follows it. -/
def value? (fuel : Nat) (chars : List Char) : Option (Token × List Char) :=
  match fuel with
  | 0 => none
  | fuel + 1 =>
    match chars with
    | '"' :: rest => do
      let (text, rest) ← textChars? rest
      some (.text (String.ofList text), rest)
    | '[' :: rest =>
      match skipSpaces rest with
      | ']' :: rest => some (.list [], rest)
      | rest => do
        let (items, rest) ← items? fuel rest
        some (.list items, rest)
    | '\x7b' :: rest =>
      match skipSpaces rest with
      | '\x7d' :: rest => some (.mapping [], rest)
      | rest => do
        let (members, rest) ← members? fuel rest
        some (.mapping (Entries.ofPairs members), rest)
    | chars => do
      let (value, rest) ← scalar? chars
      some (.scalar value, rest)

/-- The items of a list up to its end, and what follows. There is at least one. -/
def items? (fuel : Nat) (chars : List Char) : Option (List Token × List Char) :=
  match fuel with
  | 0 => none
  | fuel + 1 => do
    let (item, rest) ← value? fuel chars
    match skipSpaces rest with
    | ']' :: rest => some ([item], rest)
    | ',' :: rest => do
      let (items, rest) ← items? fuel (skipSpaces rest)
      some (item :: items, rest)
    | _ => none

/-- The members of an object up to its end, and what follows. There is at least one. -/
def members? (fuel : Nat) (chars : List Char) : Option (List (Scalar × Token) × List Char) :=
  match fuel with
  | 0 => none
  | fuel + 1 =>
    match chars with
    | '"' :: rest => do
      let (name, rest) ← textChars? rest
      match skipSpaces rest with
      | ':' :: rest => do
        let (value, rest) ← value? fuel (skipSpaces rest)
        let member := (Scalar.text (String.ofList name), value)
        match skipSpaces rest with
        | '\x7d' :: rest => some ([member], rest)
        | ',' :: rest => do
          let (members, rest) ← members? fuel (skipSpaces rest)
          some (member :: members, rest)
        | _ => none
      | _ => none
    | _ => none

end

/-- The value that a text writes, if it writes one and nothing else. -/
def read? (text : String) : Option Token := do
  let chars := text.toList
  -- Every value and every member but the last starts with a character of its own.
  let (value, rest) ← value? (2 * chars.length + 2) (skipSpaces chars)
  if (skipSpaces rest).isEmpty then some value else none

end LocoSounds.Json
