import LocoSounds.Car
import LocoSounds.Rule.Outline
import LocoSounds.Rule.References
import LocoSounds.Sound

/-! Registries: the named rules and sounds that names in rules stand for. -/

namespace LocoSounds

/-- Named rules and sounds, and the car types that rules may ask for. -/
structure Registry where
  rules : NamedRules
  sounds : List (String × Sound)
  /-- The known car types, in lower case. -/
  carTypes : List String

namespace Registry

/-- The rule of a name. -/
def rule? (registry : Registry) (name : String) : Option Rule := registry.rules.lookup name

/-- The sound of a name. -/
def sound? (registry : Registry) (name : String) : Option Sound := registry.sounds.lookup name

/-- The known car types unless others are given. -/
def defaultCarTypes : List String := Car.defaultTypes.map lowercase

/-- The known car types, each once, in the order of their code points. -/
def sortedCarTypes (registry : Registry) : List String :=
  (registry.carTypes.mergeSort (fun a b => a ≤ b)).eraseReps

/-- A readable text of every named rule. -/
def outline (registry : Registry) : String :=
  unlines (registry.rules.flatMap fun (name, rule) => lines (name ++ ":") ++ Rule.nested rule.outlineLines)

end Registry

end LocoSounds
