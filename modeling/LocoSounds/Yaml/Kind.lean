import LocoSounds.Text.BaseNumeral
import LocoSounds.Text.Lines

/-! Kinds of scalars, and the patterns by which the kind of a plain scalar is told. -/

namespace LocoSounds.Yaml

/-- What the text of a scalar is read as. -/
inductive Kind where
  | null
  | truth
  | integer
  | number
  | time
  /-- Only a tag tells that characters stand for bytes. -/
  | binary
  | text
  /-- As a key it stands for the entries of the mappings that are its value. -/
  | merge
  /-- A sign without a value of its own, which is text where it is a key. -/
  | equals
  /-- A sign that starts names and tags, which has no value. -/
  | sign
  deriving DecidableEq

/-- Texts that stand for nothing. -/
def nullTexts : List String := ["~", "null", "Null", "NULL"]

/-- Texts that stand for a truth value. -/
def truthTexts : List String :=
  ["yes", "Yes", "YES", "no", "No", "NO", "true", "True", "TRUE", "false", "False", "FALSE", "on",
    "On", "ON", "off", "Off", "OFF"]

/-- Digits to a base, with underscores, and at least one character. -/
def isDigitsToBase (base : Nat) (chars : List Char) : Bool :=
  !chars.isEmpty && chars.all fun c => c = '_' || (digitBelow? base c).isSome

/-- One or two digits of a number below sixty. -/
def isSixtieth (chars : List Char) : Bool :=
  match chars with
  | [c] => c.isDigit
  | [c, d] => '0' ≤ c ∧ c ≤ '5' ∧ d.isDigit
  | _ => false

/-- Digits and underscores that start with a digit. -/
def isDigits (chars : List Char) : Bool :=
  (chars.head?.any Char.isDigit) && isDigitsToBase 10 chars

/-- The size of an integer: to base two, sixteen, eight or ten, or in pieces to base sixty. -/
def isInteger (chars : List Char) : Bool :=
  match chars with
  | ['0'] => true
  | '0' :: 'b' :: digits => isDigitsToBase 2 digits
  | '0' :: 'x' :: digits => isDigitsToBase 16 digits
  | '0' :: digits => isDigitsToBase 8 digits
  | _ =>
    match pieces ':' chars with
    | [] => false
    | first :: sixtieths => isDigits first && sixtieths.all isSixtieth

/-- A power of ten, if there is one, is written with its sign. -/
def isSignedExponent (chars : List Char) : Bool :=
  match chars with
  | [] => true
  | mark :: sign :: digits =>
    (mark = 'e' || mark = 'E') && (sign = '+' || sign = '-') && !digits.isEmpty
      && digits.all Char.isDigit
  | _ => false

/-- Digits around a point, behind which a power of ten may stand. -/
def isPointNumber (signed : Bool) (chars : List Char) : Bool :=
  let isPart := fun (c : Char) => c.isDigit || c = '_'
  let whole := chars.takeWhile isPart
  match chars.drop whole.length with
  | '.' :: rest =>
    let fraction := rest.takeWhile isPart
    -- Without digits before the point there is a digit behind it and no sign.
    (if whole.isEmpty then !signed && isDigits fraction else isDigits whole)
      && isSignedExponent (rest.drop fraction.length)
  | _ => false

/-- Pieces to base sixty, the last of them with a point. -/
def isSixtyNumber (chars : List Char) : Bool :=
  match pieces ':' chars with
  | first :: second :: more =>
    let others := second :: more
    let last := others.getLastD []
    let whole := last.takeWhile (· ≠ '.')
    isDigits first && others.dropLast.all isSixtieth && isSixtieth whole
      && last.contains '.' && (last.drop (whole.length + 1)).all fun c => c.isDigit || c = '_'
  | _ => false

/-- The size of a number with a point, or the name of one that has no digits. -/
def isNumber (signed : Bool) (chars : List Char) : Bool :=
  let text := String.ofList chars
  [".inf", ".Inf", ".INF"].contains text || (!signed && [".nan", ".NaN", ".NAN"].contains text)
    || isPointNumber signed chars || isSixtyNumber chars

/-- The numbers of a time, as they are written. -/
structure TimeDigits where
  year : List Char
  month : List Char
  day : List Char
  /-- Hour, minute, second and the digits behind the second's point. -/
  clock : Option (List Char × List Char × List Char × List Char)
  /-- Whether the clocks are behind, and by how many hours and minutes they differ. -/
  offset : Option (Bool × List Char × List Char)

/-- Some digits at the front, of which there are so many at least and at most, and what follows. -/
def digits? (least most : Nat) (chars : List Char) : Option (List Char × List Char) :=
  let digits := (chars.take most).takeWhile Char.isDigit
  if least ≤ digits.length then some (digits, chars.drop digits.length) else none

/-- What follows a mark at the front. -/
def dropMark? (mark : Char) : List Char → Option (List Char)
  | c :: rest => if c = mark then some rest else none
  | [] => none

/-- The offset from universal time that is all there is, perhaps behind blanks, or none where
there is nothing. -/
def offsetDigits? (chars : List Char) : Option (Option (Bool × List Char × List Char)) :=
  if chars.isEmpty then some none
  else match chars.dropWhile fun c => c = ' ' || c = '\t' with
    | ['Z'] => some (some (false, [], []))
    | sign :: rest => do
      if sign ≠ '+' ∧ sign ≠ '-' then none
      let (hours, rest) ← digits? 1 2 rest
      let minutes ← if rest.isEmpty then some [] else do
        let (minutes, rest) ← digits? 2 2 (← dropMark? ':' rest)
        if rest.isEmpty then some minutes else none
      some (some (sign = '-', hours, minutes))
    | [] => none

/-- The numbers that characters write as a time, if they are in its form. A date by itself is a time
as well, and only where a clock follows may its month and day have a single digit. -/
def timeDigits? (chars : List Char) : Option TimeDigits := do
  let (year, rest) ← digits? 4 4 chars
  let (month, rest) ← digits? 1 2 (← dropMark? '-' rest)
  let (day, rest) ← digits? 1 2 (← dropMark? '-' rest)
  if rest.isEmpty then some ⟨year, month, day, none, none⟩
  else do
    let isGap := fun (c : Char) => c = ' ' || c = '\t'
    let gap := rest.takeWhile isGap
    let rest ← if gap.isEmpty then (dropMark? 'T' rest).or (dropMark? 't' rest)
      else some (rest.drop gap.length)
    let (hour, rest) ← digits? 1 2 rest
    let (minute, rest) ← digits? 2 2 (← dropMark? ':' rest)
    let (second, rest) ← digits? 2 2 (← dropMark? ':' rest)
    let (fraction, rest) := match rest with
      | '.' :: rest => (rest.takeWhile Char.isDigit, rest.dropWhile Char.isDigit)
      | _ => ([], rest)
    let offset ← offsetDigits? rest
    some ⟨year, month, day, some (hour, minute, second, fraction), offset⟩

/-- A plain scalar of these characters is a time. -/
def isTime (chars : List Char) : Bool :=
  match timeDigits? chars with
  | none => false
  | some digits => digits.clock.isSome || digits.month.length = 2 && digits.day.length = 2

/-- A line break at the end of a scalar does not count for its kind. -/
def dropLastBreak (chars : List Char) : List Char :=
  if chars.getLast? = some '\n' then chars.dropLast else chars

/-- The kind of a plain scalar. -/
def Kind.ofPlain (text : String) : Kind :=
  let chars := dropLastBreak text.toList
  let word := String.ofList chars
  let (_, size) := splitSign chars
  if text.isEmpty || nullTexts.contains word then .null
  else if truthTexts.contains word then .truth
  else if isNumber (size.length < chars.length) size then .number
  else if isInteger size then .integer
  else if word = "<<" then .merge
  else if isTime chars then .time
  else if word = "=" then .equals
  else if ["!", "&", "*"].contains word then .sign
  else .text

end LocoSounds.Yaml
