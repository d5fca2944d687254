import LocoSounds.Car
import LocoSounds.Draw
import LocoSounds.ParseError
import LocoSounds.SoundSet

/-! The journal: what happened while configurations were loaded and cars were served. -/

namespace LocoSounds

/-- How much an event matters. -/
inductive Level where
  | debug
  | info
  | warning
  | error
  deriving DecidableEq

/-- The part of the library that an event comes from. -/
inductive Channel where
  | registry
  | library
  | evaluation
  | selector
  | providers
  deriving DecidableEq

/-- Why there is no module of a name. -/
inductive ModuleAbsence where
  | noSuchModule (name : String)
  /-- The module around it holds no other modules. -/
  | notPackage (name outer : String)
  deriving DecidableEq

/-- Something that happened. -/
inductive Event where
  /-- A registry was built. -/
  | built (rules sounds : Nat)
  /-- The outline of a registry that was built. -/
  | outlined (outline : String)
  /-- An entry took the place of one of the same key. -/
  | overridden (source : String) (part : Section) (key : Scalar)
  /-- A draw chose the alternative at an index, or none. -/
  | chosen (weights thresholds : List Binary64) (draw : Drawn) (index : Option Nat)
  /-- A name stood for no rule. -/
  | ruleUndefined (name : String)
  /-- A name stood for no sound. -/
  | soundUndefined (name : String)
  /-- A rule came up again while it was being applied. -/
  | ruleReentered (name : String)
  /-- The sounds of a car were selected. -/
  | selected (car : Car) (names : List (Slot × String))
  /-- A registry became the active one. -/
  | activated (rules sounds : Nat)
  /-- There is no module of a name. -/
  | providerModuleMissing (moduleName : String) (absence : ModuleAbsence)
  /-- A module has no provider under a name. -/
  | providerMissing (member moduleName : String)
  /-- What a name stands for is no provider. -/
  | providerUnfit (name : String)
  /-- A provider was taken into use. -/
  | providerUsed (name : String)
  deriving DecidableEq

/-- The wording of the absence of a module. -/
def ModuleAbsence.message : ModuleAbsence → String
  | .noSuchModule name => "No module named " ++ quoted name
  | .notPackage name outer =>
    "No module named " ++ quoted name ++ "; " ++ quoted outer ++ " is not a package"

namespace Event

/-- How much the event matters. -/
def level : Event → Level
  | .outlined _ | .chosen .. | .selected .. => .debug
  | .built .. | .overridden .. | .activated .. | .providerUsed _ => .info
  | .providerModuleMissing .. | .providerMissing .. | .providerUnfit _ => .warning
  | .ruleUndefined _ | .soundUndefined _ | .ruleReentered _ => .error

/-- Where the event comes from. -/
def channel : Event → Channel
  | .built .. | .outlined _ => .registry
  | .overridden .. => .library
  | .chosen .. | .ruleUndefined _ | .soundUndefined _ | .ruleReentered _ | .selected .. => .evaluation
  | .activated .. => .selector
  | .providerModuleMissing .. | .providerMissing .. | .providerUnfit _ | .providerUsed _ => .providers

/-- Numbers as a list is written. -/
def numbersText (numbers : List Binary64) : String :=
  "[" ++ ", ".intercalate (numbers.map Binary64.text) ++ "]"

/-- Counts of rules and sounds. -/
def countsText (rules sounds : Nat) : String :=
  toString rules ++ " rules and " ++ toString sounds ++ " sounds"

/-- The wording of the event. One that names an integer of too many digits has none, and is left out
wherever events are written. -/
def text? : Event → Option String
  | .built rules sounds => some ("Loaded sound registry with " ++ countsText rules sounds)
  | .outlined outline => some ("Sound rules:\n" ++ outline)
  | .overridden source part key => do
    return source ++ " overrides " ++ part.entryName ++ " " ++ (← key.literal?)
  | .chosen weights thresholds draw index => do
    return "OneOf weights=" ++ numbersText weights ++ " thresholds=" ++ numbersText thresholds
      ++ " random=" ++ (← draw.text?) ++ " index=" ++ index.elim "None" toString
  | .ruleUndefined name =>
    some ("Rule " ++ quoted name ++ " is not defined; was the registry validated?")
  | .soundUndefined name =>
    some ("Sound " ++ quoted name ++ " is not defined; was the registry validated?")
  | .ruleReentered name =>
    some ("Rule " ++ quoted name ++ " refers to itself; was the registry validated?")
  | .selected car names => some (
    "Selected sounds for " ++ car.carType ++ " " ++ car.carId ++ ": " ++ SoundSet.namesText names)
  | .activated rules sounds =>
    some ("Activated sound registry with " ++ countsText rules sounds)
  | .providerModuleMissing moduleName absence => some (
    "Attribute provider module " ++ quoted moduleName ++ " not available: " ++ absence.message)
  | .providerMissing member moduleName =>
    some ("Attribute provider " ++ quoted member ++ " not found in " ++ quoted moduleName)
  | .providerUnfit name => some (quoted name ++ " does not provide a lookup(car_id) method")
  | .providerUsed name => some ("Using attribute provider " ++ name)

end Event

end LocoSounds
