import LocoSounds.Text.Base64
import LocoSounds.Token
import LocoSounds.Yaml.Fault
import LocoSounds.Yaml.Kind

/-! Values of scalars: texts read by their kind, which a tag may have forced on them. -/

namespace LocoSounds.Yaml

/-- The outcome of reading an integer to a base. -/
def integerToBase (base : Nat) (chars : List Char) : Except ValueFault Int :=
  let text := String.ofList chars
  match readToBase base text with
  | .ok value => .ok value
  | .error .notNumeral => .error (.notInteger base text)
  | .error (.tooManyDigits count) => .error (.tooManyDigits count)

/-- The outcome of reading a number in decimal digits. -/
def decimalOf (chars : List Char) : Except ValueFault Binary64 :=
  let text := String.ofList chars
  match readFraction? text with
  | some value => .ok value
  | none => .error (.notNumber text)

/-- A numeral without underscores, its sign apart. There is at least one character. -/
def splitNumeral (chars : List Char) : Except ValueFault (Bool × List Char) :=
  let chars := chars.filter (· ≠ '_')
  if chars.isEmpty then .error .nothingWritten else .ok (splitSign chars)

/-- The size of an integer: a mark or a zero at its front tells its base, colons part pieces to base
sixty. -/
def integerSize (chars : List Char) : Except ValueFault Int :=
  match chars with
  | [] => .error .nothingWritten
  | ['0'] => .ok 0
  | '0' :: 'b' :: digits => integerToBase 2 digits
  | '0' :: 'x' :: digits => integerToBase 16 digits
  | '0' :: _ => integerToBase 8 chars
  | _ => do
    let values ← (pieces ':' chars).mapM (integerToBase 10)
    .ok (values.foldl (fun sum value => 60 * sum + value) 0)

/-- The integer that a text stands for. -/
def integerOf (text : String) : Except ValueFault Int := do
  let (negative, size) ← splitNumeral text.toList
  let value ← integerSize size
  .ok (if negative then -value else value)

/-- The sum of pieces to base sixty, the last of them first, added up from a power of sixty on. -/
def sixtySum (power : Int) (sum : Binary64) : List Binary64 → Except ValueFault Binary64
  | [] => .ok sum
  | piece :: rest =>
    let scale := Binary64.ofInt power
    if scale.isFinite then sixtySum (60 * power) (sum + piece * scale) rest
    else .error .powerTooLarge

/-- The number that a text stands for. The `nan` with a point is the same everywhere. -/
def numberOf (text : String) : Except ValueFault Scalar := do
  let (negative, size) ← splitNumeral (lowercase text).toList
  let signed := fun (value : Binary64) => Scalar.float (if negative then -value else value)
  if size = ".inf".toList then .ok (signed (.infinity false))
  else if size = ".nan".toList then .ok .sharedNan
  else if size.contains ':' then do
    let values ← (pieces ':' size).mapM decimalOf
    let sum ← sixtySum 1 .zero values.reverse
    .ok (signed sum)
  else do
    let value ← decimalOf size
    .ok (signed value)

/-- The truth value that a text stands for, whatever the case of its letters. -/
def truthOf (text : String) : Except ValueFault Bool :=
  match lowercase text with
  | "yes" | "true" | "on" => .ok true
  | "no" | "false" | "off" => .ok false
  | _ => .error (.notTruth text)

/-- The number of microseconds that digits behind a point stand for, of which six count. -/
def microseconds (digits : List Char) : Nat :=
  let counted := digits.take 6
  digitsValue (counted ++ List.replicate (6 - counted.length) '0')

/-- The date or time that a text stands for. -/
def timeOf (text : String) : Except ValueFault Scalar :=
  match timeDigits? (dropLastBreak text.toList) with
  | none => .error .notTime
  | some digits =>
    let year := digitsValue digits.year
    let month := digitsValue digits.month
    let day := digitsValue digits.day
    match digits.clock with
    | none =>
      match Date.of? year month day with
      | .ok date => .ok (.date date)
      | .error fault => .error (.time (.date fault))
    | some (hour, minute, second, fraction) =>
      let offset := digits.offset.map fun (behind, hours, minutes) =>
        Binary64.signed behind (60 * digitsValue hours + digitsValue minutes)
      match DateTime.of? year month day (digitsValue hour) (digitsValue minute)
          (digitsValue second) (microseconds fraction) offset with
      | .ok time => .ok (.dateTime time)
      | .error fault => .error (.time fault)

/-- The value of a text of some kind. Signs have none. -/
def Kind.value (kind : Kind) (text : String) : Except Fault Scalar :=
  match kind with
  | .null => .ok .null
  | .truth => (Scalar.bool <$> truthOf text).mapError .value
  | .integer => (Scalar.int <$> integerOf text).mapError .value
  | .number => (numberOf text).mapError .value
  | .time => (timeOf text).mapError .value
  | .binary => (readBase64? text).elim (.error .badBinary) fun bytes => .ok (.bytes bytes)
  | .text => .ok (.text text)
  | .merge | .equals | .sign => .error .unknownTag

end LocoSounds.Yaml
