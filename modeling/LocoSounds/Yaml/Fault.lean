import LocoSounds.DateTime
import LocoSounds.Text.Lowercase
import LocoSounds.Text.Quoted

/-! Why a text is no YAML document, or a scalar of it has no value. -/

namespace LocoSounds.Yaml

/-- Why characters or scalars have no value. -/
inductive ValueFault where
  /-- An escape names a code beyond the last character. -/
  | codeOutOfRange
  /-- An escape names a code beyond the codes that are read. -/
  | codeTooLarge
  | notTruth (text : String)
  | notInteger (base : Nat) (text : String)
  | notNumber (text : String)
  /-- A number has not even a sign. -/
  | nothingWritten
  | tooManyDigits (count : Nat)
  /-- A piece of a number to base sixty has no power that is in range. -/
  | powerTooLarge
  | notTime
  | time (fault : DateTimeFault)
  deriving DecidableEq

/-- The greatest number of characters of a text that a message shows. -/
def longestShown : Nat := 200

/-- The wording of a value fault. -/
def ValueFault.message : ValueFault → String
  | .codeOutOfRange => "chr() arg not in range(0x110000)"
  | .codeTooLarge => "Python int too large to convert to C int"
  | .notTruth text => LocoSounds.quoted (lowercase text)
  | .notInteger base text =>
    "invalid literal for int() with base " ++ toString base ++ ": "
      ++ String.ofList ((LocoSounds.quoted text).toList.take longestShown)
  | .notNumber text => "could not convert string to float: " ++ LocoSounds.quoted text
  | .nothingWritten => "string index out of range"
  | .tooManyDigits count => digitLimitMessage (": value has " ++ toString count ++ " digits")
  | .powerTooLarge => "int too large to convert to float"
  | .notTime => "'NoneType' object has no attribute 'groupdict'"
  | .time fault => fault.message

/-- What is wrong with a text. -/
inductive Fault where
  /-- A character may not stand in documents. -/
  | forbiddenCharacter
  /-- A character cannot start anything here. -/
  | strayCharacter
  /-- An indented part is not allowed here. -/
  | misplaced
  /-- A key is not followed by its colon. -/
  | keyWithoutColon
  /-- A quoted text has no end. -/
  | unclosedQuote
  /-- An escape in a quoted text stands for nothing. -/
  | badEscape
  /-- A directive, tag, anchor or alias is written wrongly. -/
  | badName
  /-- The header of a block of text is written wrongly. -/
  | badHeader
  /-- The pieces of the document do not fit together. -/
  | badStructure
  /-- A name stands for no anchored node. -/
  | unknownAnchor
  /-- A name is anchored twice. -/
  | repeatedAnchor
  /-- There is a second document. -/
  | secondDocument
  /-- A list or mapping is used as a key. -/
  | compositeKey
  /-- A merged value is no mapping. -/
  | badMerge
  /-- A value has a tag without meaning. -/
  | unknownTag
  /-- A value is of another sort than its tag says. -/
  | wrongTag
  /-- Characters stand for no bytes. -/
  | badBinary
  | value (fault : ValueFault)
  deriving DecidableEq

end LocoSounds.Yaml
