import LocoSounds.Text.Codes
import LocoSounds.Text.Numeral
import LocoSounds.Token

/-! Values of record fields: what a field accepts and what can be wrong with it. -/

namespace LocoSounds

/-- What is wrong with the value of a field. -/
inductive FieldFault where
  | missing
  | notText
  /-- Half of a pair stands by itself in a text. -/
  | malformedText
  | notList
  | notSet
  | notNumber
  | notNumeral
  | notIntegerNumeral
  | integerTooLong
  | notPositive
  | negative
  | emptyList
  | unknownKey
  | keyNotText
  /-- An integer has too many digits to be written. -/
  | tooManyDigits
  deriving DecidableEq

/-- The wording of a field fault. -/
def FieldFault.message : FieldFault → String
  | .missing => "Field required"
  | .notText => "Input should be a valid string"
  | .malformedText => "Input should be a valid string, unable to parse raw data as a unicode string"
  | .notList => "Input should be a valid list"
  | .notSet => "Input should be a valid frozenset"
  | .notNumber => "Input should be a valid number"
  | .notNumeral => "Input should be a valid number, unable to parse string as a number"
  | .notIntegerNumeral => "Input should be a valid integer, unable to parse string as an integer"
  | .integerTooLong => "Unable to parse input string as an integer, exceeded maximum size"
  | .notPositive => "Input should be greater than 0"
  | .negative => "Input should be greater than or equal to 0"
  | .emptyList => "List should have at least 1 item after validation, not 0"
  | .unknownKey => "Extra inputs are not permitted"
  | .keyNotText => "Keys should be strings"
  | .tooManyDigits => "Value error, " ++ digitLimitMessage ""

/-- A fault with the keys and positions that lead to the value. -/
structure FieldError where
  path : List String
  fault : FieldFault
  deriving DecidableEq

/-- The wording of a field error. -/
def FieldError.message (error : FieldError) : String :=
  ".".intercalate error.path ++ ": " ++ error.fault.message

/-- The wording of several field errors. -/
def FieldError.messages (errors : List FieldError) : String :=
  "; ".intercalate (errors.map FieldError.message)

namespace Token

/-- The items of a sequence of either sort, or the members of a set. -/
def items? : Token → Option (List Token)
  | .list items => some items
  | .tuple items => some items
  | .set members => some (members.map .scalar)
  | _ => none

/-- The text that bytes encode. -/
def textOfBytes? (bytes : List UInt8) : Option String := String.fromUTF8? ⟨bytes.toArray⟩

/-- The text that a token is or encodes. -/
def toText : Token → Except FieldFault String
  | .scalar (.text value) => .ok value
  | .scalar (.bytes value) => (textOfBytes? value).elim (.error .malformedText) .ok
  | _ => .error .notText

/-- The number that a text writes. -/
def numberOfText (text : String) : Except FieldFault Binary64 :=
  (readNumber? text).elim (.error .notNumeral) .ok

/-- The number that a token stands for: truth values count as 1 and 0, texts are read. An
integer too large for a number is none. -/
def toNumber : Token → Except FieldFault Binary64
  | .scalar (.int value) =>
    let number := Binary64.ofInt value
    if number.isFinite then .ok number else .error .notNumber
  | .scalar (.float value) => .ok value
  | .scalar .sharedNan => .ok .nan
  | .scalar (.bool value) => .ok (.ofInt (if value then 1 else 0))
  | .scalar (.text value) =>
    if isWellFormed value then numberOfText value else .error .malformedText
  | .scalar (.bytes value) => (textOfBytes? value).elim (.error .notNumeral) numberOfText
  | _ => .error .notNumber

/-- Each token of a list read in turn, with the errors of those that cannot be read. -/
def readItems (read : Token → Except FieldFault α) (field : String) (position : Nat) :
    List Token → List α × List FieldError
  | [] => ([], [])
  | token :: rest =>
    let (values, errors) := readItems read field (position + 1) rest
    match read token with
    | .ok value => (value :: values, errors)
    | .error fault => (values, ⟨[field, toString position], fault⟩ :: errors)

/-- The values of a sequence, or the error of everything in it that cannot be read. -/
def toItems (read : Token → Except FieldFault α) (field : String) (token : Token) :
    Except (List FieldError) (List α) :=
  match token.items? with
  | none => .error [⟨[field], .notList⟩]
  | some items =>
    match readItems read field 0 items with
    | (values, []) => .ok values
    | (_, errors) => .error errors

end Token

end LocoSounds
