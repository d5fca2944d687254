import LocoSounds.ParseError

/-! The grammar of sounds: a mapping of known fields, each checked in a fixed order. -/

namespace LocoSounds

namespace Sound

/-- The fields of numbers. -/
inductive NumberField where
  | pitch
  | minPitch
  | maxPitch
  | fadeStart
  | fadeWidth
  deriving DecidableEq

namespace NumberField

/-- Every number field, in the order in which they are checked. -/
def all : List NumberField := [.pitch, .minPitch, .maxPitch, .fadeStart, .fadeWidth]

/-- The field's spelling in camel case. -/
def camelCase : NumberField → String
  | .pitch => "pitch"
  | .minPitch => "minPitch"
  | .maxPitch => "maxPitch"
  | .fadeStart => "fadeStart"
  | .fadeWidth => "fadeWidth"

/-- The field's spelling in snake case. -/
def snakeCase : NumberField → String
  | .pitch => "pitch"
  | .minPitch => "min_pitch"
  | .maxPitch => "max_pitch"
  | .fadeStart => "fade_start"
  | .fadeWidth => "fade_width"

/-- Pitches are above zero, fades may be zero. -/
def bound (field : NumberField) (number : Binary64) : Except FieldFault Binary64 :=
  match field with
  | .pitch | .minPitch | .maxPitch =>
    if .zero < number then .ok number else .error .notPositive
  | .fadeStart | .fadeWidth =>
    if .zero ≤ number then .ok number else .error .negative

/-- The spelling of the field that some entries use. Camel case wins where both are there. -/
def spelling (field : NumberField) (entries : Entries) : String :=
  if (entries.get? field.camelCase).isSome then field.camelCase else field.snakeCase

end NumberField

/-- The error of a field of a sound. -/
def fieldError (location : Location) (fault : FieldFault) : ParseError :=
  .malformed (.sound (.field fault)) location

/-- The slot that a sound fills. -/
def slotField (location : Location) (entries : Entries) : Except ParseError Slot :=
  let location := location.key "type"
  match entries.get? "type" with
  | none => .error (fieldError location .missing)
  | some (.scalar (.text name)) =>
    match Slot.ofName? name with
    | some slot => .ok slot
    | none => .error (.malformed (.sound (.noSuchSlot name)) location)
  | some (.scalar (.bytes bytes)) =>
    -- Bytes have to encode the name of a slot letter by letter.
    match (Token.textOfBytes? bytes).bind Slot.ofExactName? with
    | some slot => .ok slot
    | none => .error (.malformed (.sound .notSlotName) location)
  | some _ => .error (.malformed (.sound .notSlotName) location)

/-- The token of the file list. A single file name counts only where there is no list. -/
def filesToken? (entries : Entries) : Option Token :=
  match entries.get? "filenames", entries.get? "filename" with
  | some files, _ => some files
  | none, some file => some (.list [file])
  | none, none => none

/-- The file names from a position of the list on. -/
def fileNames (location : Location) (position : Nat) : List Token → Except ParseError (List String)
  | [] => .ok []
  | token :: rest =>
    match token.toText with
    | .error fault => .error (fieldError (location.key (toString position)) fault)
    | .ok name => do
      let names ← fileNames location (position + 1) rest
      .ok (name :: names)

/-- The files of a sound, at least one. -/
def filesField (location : Location) (entries : Entries) : Except ParseError (List String) :=
  let location := location.key "filenames"
  match filesToken? entries with
  | none => .error (fieldError location .missing)
  | some token =>
    match token.items? with
    | none => .error (fieldError location .notList)
    | some [] => .error (fieldError location .emptyList)
    | some items => fileNames location 0 items

/-- A number of a sound, absent or null where it is not set. -/
def numberField (location : Location) (entries : Entries) (field : NumberField) :
    Except ParseError (Option Binary64) :=
  let spelling := field.spelling entries
  match entries.getD spelling with
  | .scalar .null => .ok none
  | token =>
    match token.toNumber.bind field.bound with
    | .ok number => .ok (some number)
    | .error fault => .error (fieldError (location.key spelling) fault)

/-- The keys that stand for a field in some entries. -/
def fieldKeys (entries : Entries) : List String :=
  ["name", "type", "filename", "filenames"] ++ NumberField.all.map (·.spelling entries)

/-- How a key is named in the location of an error: truth values go by their number, and an integer
of too many digits by its type. -/
def keyText (key : Scalar) : String :=
  match key with
  | .bool value => if value then "1" else "0"
  | .text value => value
  | other => other.literal?.getD ("<unprintable " ++ other.typeName ++ " object>")

/-- The location of a key. A key without characters has no location of its own. -/
def keyLocation (location : Location) (name : String) : Location :=
  if name.isEmpty then location else location.key name

/-- Every key is text and stands for a field. -/
def checkKeys (location : Location) (known : List String) :
    List (Scalar × Token) → Except ParseError Unit
  | [] => .ok ()
  | (.text name, _) :: rest =>
    if known.contains name then checkKeys location known rest
    else .error (fieldError (keyLocation location name) .unknownKey)
  | (key, _) :: _ => .error (fieldError (location.key (keyText key)) .keyNotText)

/-- The lowest pitch of a sound is not above its highest. -/
def checkPitchRange (location : Location) (sound : Sound) : Except ParseError Sound :=
  -- One pitch by itself has nothing to be compared with.
  match sound.minPitch, sound.maxPitch with
  | some low, some high =>
    if high < low then .error (.malformed (.sound (.pitchRange low high)) location) else .ok sound
  | _, _ => .ok sound

/-- No half of a pair stands by itself in a key. -/
def checkTexts (location : Location) (entries : Entries) : Except ParseError Unit :=
  let malformed := fun (key : Scalar) => match key with
    | .text name => !isWellFormed name
    | _ => false
  if entries.any fun (key, _) => malformed key then .error (fieldError location .malformedText)
  else .ok ()

/-- The sound of a name that a token describes. -/
def ofToken (location : Location) (name : String) : Token → Except ParseError Sound
  | .mapping entries => do
    checkTexts location entries
    let slot ← slotField location entries
    let filenames ← filesField location entries
    let pitch ← numberField location entries .pitch
    let minPitch ← numberField location entries .minPitch
    let maxPitch ← numberField location entries .maxPitch
    let fadeStart ← numberField location entries .fadeStart
    let fadeWidth ← numberField location entries .fadeWidth
    -- Strange keys are told only of a sound whose fields are fine, and the range comes last.
    checkKeys location (fieldKeys entries) entries
    checkPitchRange location
      { name, slot, filenames, pitch, minPitch, maxPitch, fadeStart, fadeWidth }
  | token => .error (.malformed (.unexpected token.typeName .sound) location)

/-- The sounds of a section, under their names. -/
def ofSection (token : Token) : Except ParseError (List (String × Sound)) := do
  let entries ← Section.sounds.entries token
  entries.mapM fun (name, token) => do
    let sound ← ofToken ((Location.start "sounds").key name) name token
    pure (name, sound)

end Sound

end LocoSounds
