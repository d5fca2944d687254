import LocoSounds.Location
import LocoSounds.Rule.Choice
import LocoSounds.Sound
import LocoSounds.Token.Text

/-! What can be wrong with the shape of a sound configuration. -/

namespace LocoSounds

/-- What is wrong with the entry of a sound. -/
inductive SoundFault where
  | field (fault : FieldFault)
  | notSlotName
  | noSuchSlot (name : String)
  | pitchRange (low high : Binary64)
  deriving DecidableEq

/-- What was wanted where another kind of value was found. -/
inductive Wanted where
  | rule
  | sound
  | list
  | text
  | number
  deriving DecidableEq

/-- A section of a configuration document. -/
inductive Section where
  | sounds
  | rules
  deriving DecidableEq

/-- What is wrong with the shape of a configuration. -/
inductive ParseFault where
  | invalidDocument
  | documentNotMapping
  | sectionNotMapping (part : Section)
  | nameNotText (part : Section) (typeName : String)
  | missingField (name : String)
  | unexpected (found : String) (wanted : Wanted)
  | noSuchRuleKind (tag : String)
  | noSuchProperty (name : String)
  | choice (fault : ChoiceFault)
  | sound (fault : SoundFault)
  /-- An integer has too many digits to be written. -/
  | tooManyDigits
  deriving DecidableEq

/-- Why a configuration cannot be read. -/
inductive ParseError where
  /-- The value at a location has the wrong shape. -/
  | malformed (fault : ParseFault) (location : Location)
  /-- A whole number is too large for the number that is wanted. -/
  | numberTooLarge
  /-- The error of a key cannot be worded, as the key is an integer of too many digits. -/
  | keyTooLong
  deriving DecidableEq

namespace Section

/-- The section's key in documents. -/
def name : Section → String
  | .sounds => "sounds"
  | .rules => "rules"

/-- What one entry of the section is called. -/
def entryName : Section → String
  | .sounds => "sound"
  | .rules => "rule"

end Section

/-- The wording of a sound fault. -/
def SoundFault.message : SoundFault → String
  | .field fault => fault.message
  | .notSlotName =>
    let names := Slot.all.map fun slot => "'" ++ slot.name ++ "'"
    "Input should be " ++ ", ".intercalate names.dropLast ++ " or " ++ names.getLastD ""
  | .noSuchSlot name => "Unknown sound type " ++ quoted name
  | .pitchRange low high =>
    "minPitch " ++ low.text ++ " is greater than maxPitch " ++ high.text

/-- The word for what was wanted. -/
def Wanted.word : Wanted → String
  | .rule => "rule"
  | .sound => "sound"
  | .list => "list"
  | .text => "string"
  | .number => "number"

/-- The wording of a parse fault. -/
def ParseFault.message : ParseFault → String
  | .invalidDocument => "Invalid document"
  | .documentNotMapping => "A sound configuration must be a mapping"
  | .sectionNotMapping part => "The " ++ part.name ++ " section must be a mapping"
  | .nameNotText .rules typeName => "Rule names must be strings, got " ++ typeName
  | .nameNotText .sounds typeName => "Sound names must be strings, got " ++ typeName
  | .missingField name => "Missing required field: " ++ name
  | .unexpected found wanted => "Found " ++ found ++ " where a " ++ wanted.word ++ " was expected"
  | .noSuchRuleKind tag => "Unknown rule type " ++ quoted tag
  | .noSuchProperty name => "Unknown If property " ++ quoted name
  | .choice fault => fault.message
  | .sound fault => fault.message
  | .tooManyDigits => digitLimitMessage ""

/-- The wording of a parse error, with the location where there is one. -/
def ParseError.message : ParseError → String
  | .malformed fault location => located fault.message location.text
  | .numberTooLarge => "int too large to convert to float"
  | .keyTooLong => digitLimitMessage ""

namespace Token

/-- What a token is called where another kind was expected. -/
def kindName : Token → String
  | .scalar .null => "null"
  | .scalar (.bool _) => "boolean"
  | .scalar (.int _) => "number"
  | .scalar (.float _) | .scalar .sharedNan => "number"
  | token => token.typeName

/-- The error of a token that stands where another kind was wanted. -/
def unexpected (token : Token) (wanted : Wanted) (location : Location) : ParseError :=
  .malformed (.unexpected token.kindName wanted) location

/-- The error of a mapping without a field that it needs. -/
def missing (name : String) (location : Location) : ParseError :=
  .malformed (.missingField name) location

end Token

/-- An entry of a section under its name. A key that is no name is refused in its written form. -/
def Section.takeEntry (part : Section) : Scalar × Token → Except ParseError (String × Token)
  | (.text name, token) => .ok (name, token)
  | (key, _) =>
    match key.plain? with
    | some written =>
      .error (.malformed (.nameNotText part key.typeName) ((Location.start part.name).key written))
    | none => .error .keyTooLong

/-- The entries of a section, each under a name. An absent section has none. -/
def Section.entries (part : Section) : Token → Except ParseError (List (String × Token))
  | .scalar .null => .ok []
  -- Every key is looked at before any entry is.
  | .mapping entries => entries.mapM part.takeEntry
  | _ => .error (.malformed (.sectionNotMapping part) (Location.start part.name))

end LocoSounds
