import LocoSounds.Car
import LocoSounds.FilePath
import LocoSounds.Json
import LocoSounds.Text.Lowercase

/-! Settings, as named variables give them. -/

namespace LocoSounds

/-- What can be chosen without changing a configuration. -/
structure Settings where
  /-- Where the configuration is, if it is not the bundled one. -/
  configPath : Option FilePath
  rootRule : String
  knownCarTypes : List String
  /-- The name of a source of skins. -/
  skinProvider : Option String
  /-- The seed of draws, which are otherwise not determined. -/
  randomSeed : Option Int
  logLevel : String
  deriving DecidableEq

/-- Why variables give no settings. -/
inductive SettingsError where
  /-- The variable of a list holds no JSON text. -/
  | notJson (field : String)
  | fields (errors : List FieldError)
  deriving DecidableEq

/-- The wording of a settings error. -/
def SettingsError.message : SettingsError → String
  | .notJson field =>
    "error parsing value for field \"" ++ field ++ "\" from source \"EnvSettingsSource\""
  | .fields errors => FieldError.messages errors

/-- Variables with their values. Of names that differ only in case the last one counts. -/
abbrev Variables := List (String × String)

namespace Variables

/-- The value of the variable of a name, if there is one. -/
def value? (given : Variables) (name : String) : Option String :=
  (given.reverse.find? fun (key, _) => lowercase key = lowercase name).map (·.2)

end Variables

namespace Settings

/-- The list that a variable writes as JSON, where null stands for the default. -/
def readTexts (field : String) (default : List String) (value : Option String) :
    Except SettingsError (Except (List FieldError) (List String)) :=
  match value with
  | none => .ok (.ok default)
  | some text =>
    match Json.read? text with
    | none => .error (.notJson field)
    | some (.scalar .null) => .ok (.ok default)
    | some token => .ok (Token.toItems Token.toText field token)

/-- The integer that a variable writes. -/
def readSeed (field : String) (value : Option String) : Except (List FieldError) (Option Int) :=
  match value with
  | none => .ok none
  | some text =>
    match readInteger text with
    | .integer seed => .ok (some seed)
    | .tooLong => .error [⟨[field], .integerTooLong⟩]
    | .notInteger => .error [⟨[field], .notIntegerNumeral⟩]

/-- The settings that variables give. Their names start with a text of the program's own. -/
def ofVariables (start : String) (given : Variables) : Except SettingsError Settings := do
  let value := fun (field : String) => given.value? (start ++ field)
  let carTypes ← readTexts "known_car_types" Car.defaultTypes (value "known_car_types")
  match carTypes, readSeed "random_seed" (value "random_seed") with
  | .ok knownCarTypes, .ok randomSeed =>
    .ok {
      configPath := (value "config_path").map FilePath.ofText
      rootRule := (value "root_rule").getD "root"
      knownCarTypes
      skinProvider := value "skin_provider"
      randomSeed
      logLevel := (value "log_level").getD "INFO" }
  | .error first, .error second => .error (.fields (first ++ second))
  | .error only, .ok _ => .error (.fields only)
  | .ok _, .error only => .error (.fields only)

end Settings

end LocoSounds
