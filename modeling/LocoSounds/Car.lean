import LocoSounds.Field

/-! Cars that sounds are selected for. -/

namespace LocoSounds

/-- What is known of a car when its sounds are selected. -/
structure Car where
  carType : String
  /-- Identifies the car where its attributes are looked up. -/
  carId : String
  deriving DecidableEq

namespace Car

/-- The car types that are known unless others are given. -/
def defaultTypes : List String :=
  ["LocoShunter", "LocoDiesel", "LocoSteamHeavy", "LocoSteamHeavyBlue", "LocoRailbus", "DE2", "DE6",
    "DH4", "DM3", "S060", "S282", "BE2"]

/-- The text of a field, with a default for an absent one. -/
def textField (entries : Entries) (name : String) (absent : Except FieldFault String) :
    Except FieldError String :=
  match (entries.get? name).elim absent Token.toText with
  | .ok value => .ok value
  | .error fault => .error ⟨[name], fault⟩

/-- The car of some fields, of which others than its own are ignored. -/
def ofEntries (entries : Entries) : Except (List FieldError) Car :=
  match textField entries "car_type" (.error .missing), textField entries "car_id" (.ok "") with
  | .ok carType, .ok carId => .ok ⟨carType, carId⟩
  | .error first, .error second => .error [first, second]
  | .error only, .ok _ => .error [only]
  | .ok _, .error only => .error [only]

end Car

end LocoSounds
