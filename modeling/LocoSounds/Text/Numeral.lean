import LocoSounds.Binary64.Arithmetic

/-! Numerals written as text: surrounding space, a sign and underscores between digits are allowed. -/

namespace LocoSounds

/-- Characters that may surround a numeral. -/
def isBlank (c : Char) : Bool :=
  let code := c.toNat
  (0x9 ≤ code && code ≤ 0xd) || code = 0x20 || code = 0x85 || code = 0xa0 || code = 0x1680
    || (0x2000 ≤ code && code ≤ 0x200a) || code = 0x2028 || code = 0x2029 || code = 0x202f
    || code = 0x205f || code = 0x3000

/-- A text without the blanks around it. -/
def trimBlanks (chars : List Char) : List Char :=
  ((chars.dropWhile isBlank).reverse.dropWhile isBlank).reverse

/-- The value of a decimal digit. -/
def digitValue (c : Char) : Nat := c.toNat - '0'.toNat

/-- The number that decimal digits stand for. -/
def digitsValue (digits : List Char) : Nat :=
  digits.foldl (fun n c => 10 * n + digitValue c) 0

/-- A sign, if there is one, and what follows it. -/
def splitSign : List Char → Bool × List Char
  | '-' :: rest => (true, rest)
  | '+' :: rest => (false, rest)
  | chars => (false, chars)

/-- Underscores stand between other characters, each by itself. -/
def underscoresSeparate : List Char → Bool
  | [] => true
  | ['_'] => false
  | '_' :: '_' :: _ => false
  | _ :: rest => underscoresSeparate rest

/-- A numeral without its separating underscores. -/
def dropUnderscores? (chars : List Char) : Option (List Char) :=
  if chars.head? = some '_' || !underscoresSeparate chars then none
  else some (chars.filter (· != '_'))

/-- The power of ten after a mantissa, where nothing stands for the power 0. -/
def readExponent? : List Char → Option Int
  | [] => some 0
  | mark :: rest =>
    let (negative, digits) := splitSign rest
    if (mark = 'e' ∨ mark = 'E') ∧ !digits.isEmpty ∧ digits.all Char.isDigit then
      some (Binary64.signed negative (digitsValue digits))
    else none

/-- The number written by digits with an optional point and power of ten. -/
def readDecimal? (negative : Bool) (chars : List Char) : Option Binary64 :=
  let whole := chars.takeWhile Char.isDigit
  let rest := chars.dropWhile Char.isDigit
  let (fraction, rest) := match rest with
    | '.' :: rest => (rest.takeWhile Char.isDigit, rest.dropWhile Char.isDigit)
    | _ => ([], rest)
  -- Digits may be missing on either side of the point, but not on both.
  if whole.isEmpty && fraction.isEmpty then none
  else do
    let exponent ← readExponent? rest
    some (Binary64.ofDecimal negative (digitsValue (whole ++ fraction)) (exponent - fraction.length))

/-- A numeral without blanks and underscores. -/
def readBareNumber? (chars : List Char) : Option Binary64 :=
  let (negative, rest) := splitSign chars
  let word := String.ofList (rest.map Char.toLower)
  if word = "inf" ∨ word = "infinity" then some (.infinity negative)
  else if word = "nan" then some .nan
  else readDecimal? negative rest

/-- The number that a text stands for. It may have blanks around it or underscores inside, not both. -/
def readNumber? (text : String) : Option Binary64 :=
  -- Where underscores have to go, blanks are not taken off as well.
  (readBareNumber? (trimBlanks text.toList)).or
    ((dropUnderscores? text.toList).bind readBareNumber?)

/-- What follows zeros and underscores, the last of which is given: a point keeps what stands before
it, and where nothing follows the last one is all there is. -/
def dropZerosAfter? (last : Char) : List Char → Option (List Char)
  | [] => some [last]
  | c :: rest =>
    if c = '0' || c = '_' then dropZerosAfter? c rest
    else if c = '.' then some (last :: c :: rest)
    else if c = '-' || c.isDigit then some (c :: rest)
    else none

/-- A numeral without the zeros at its front, which a minus sign may follow but not precede. -/
def dropLeadingZeros? : List Char → Option (List Char)
  | [] => none
  | c :: rest =>
    if c = '0' then dropZerosAfter? c rest
    else if c = '-' || c.isDigit then some (c :: rest)
    else none

/-- A numeral without the point and the zeros behind it, of which there is at least one. -/
def dropZeroFraction (chars : List Char) : List Char :=
  match chars.dropWhile (· != '.') with
  | _ :: zero :: zeros =>
    if (zero :: zeros).all (· = '0') then chars.takeWhile (· != '.') else chars
  | _ => chars

/-- The sign and the digits of an integer, without all that may stand around and between them. -/
def integerChars? (text : String) : Option (List Char) := do
  let unsigned ← match trimBlanks text.toList with
    -- A plus is taken off before zeros are, so a minus cannot follow it.
    | '+' :: '-' :: _ => none
    | '+' :: rest => some rest
    | chars => some chars
  let chars := dropZeroFraction (← dropLeadingZeros? unsigned)
  some ((dropUnderscores? chars).getD chars)

/-- A text read as an integer. -/
inductive IntegerReading where
  | integer (value : Int)
  /-- The digits are too many to be read. -/
  | tooLong
  | notInteger
  deriving DecidableEq

/-- The greatest number of characters of an integer that is read, and of digits of one that is
written. -/
def longestInteger : Nat := 4300

/-- The decimal form of an integer, which one of too many digits does not have. -/
def integerText? (value : Int) : Option String :=
  if (toString value.natAbs).length ≤ longestInteger then some (toString value) else none

/-- The wording of the fault of too many digits, with what there is to say about them. -/
def digitLimitMessage (detail : String) : String :=
  "Exceeds the limit (" ++ toString longestInteger ++ " digits) for integer string conversion"
    ++ detail ++ "; use sys.set_int_max_str_digits() to increase the limit"

/-- The integer that a text stands for. A point may be followed only by zeros. -/
def readInteger (text : String) : IntegerReading :=
  match integerChars? text with
  | none => .notInteger
  | some chars =>
    let (negative, digits) := match chars with
      | '-' :: digits => (true, digits)
      | _ => (false, chars)
    -- What is no numeral is told before one that is too long.
    if digits.isEmpty || !digits.all Char.isDigit then .notInteger
    else if longestInteger < chars.length then .tooLong
    else .integer (Binary64.signed negative (digitsValue digits))

end LocoSounds
