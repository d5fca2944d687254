import LocoSounds.Location
import LocoSounds.Registry

/-! Resolution: every name in a rule stands for something, every car type is known, no rule needs itself. -/

namespace LocoSounds

/-- What keeps a rule from being applied with a registry. -/
inductive ResolutionFault where
  | unknownCarType (value : String)
  | noSuchRule (name : String)
  | noSuchSound (name : String)
  | cycle (names : List String)
  deriving DecidableEq

/-- A resolution fault with the place of the rule at fault. -/
structure ResolutionError where
  fault : ResolutionFault
  location : Location
  deriving DecidableEq

/-- The wording of a resolution fault. -/
def ResolutionFault.message : ResolutionFault → String
  | .unknownCarType value => "Unknown value for CarType: " ++ value
  | .noSuchRule name => "Reference to unknown rule \"" ++ name ++ "\""
  | .noSuchSound name => "Reference to unknown sound \"" ++ name ++ "\""
  | .cycle names => "Rules reference each other in a cycle: " ++ " -> ".intercalate names

/-- The wording of a resolution error. -/
def ResolutionError.message (error : ResolutionError) : String :=
  located error.fault.message error.location.text

namespace Rule

mutual

/-- Finds the first rule of a tree, in preorder, that a registry cannot resolve. -/
def resolve (registry : Registry) (location : Location) : Rule → Except ResolutionError Unit
  | .allOf rules => resolveAll registry (location.key "rules") 0 rules
  | .oneOf choices => resolveChoices registry (location.key "rules") 0 choices
  | .when property value rule =>
    -- Skins are known only when a car is looked up.
    if property = .carType ∧ lowercase value ∉ registry.carTypes then
      .error ⟨.unknownCarType value, location⟩
    else rule.resolve registry (location.key "rule")
  | .ref name =>
    -- Whether the named rule resolves itself is told at its own place.
    if (registry.rule? name).isSome then .ok () else .error ⟨.noSuchRule name, location⟩
  | .sound name =>
    if (registry.sound? name).isSome then .ok () else .error ⟨.noSuchSound name, location⟩

/-- Resolves rules from a position of a list on. -/
def resolveAll (registry : Registry) (location : Location) (position : Nat) :
    List Rule → Except ResolutionError Unit
  | [] => .ok ()
  | rule :: rest => do
    rule.resolve registry (location.item position)
    resolveAll registry location (position + 1) rest

/-- Resolves alternatives from a position of a list on. -/
def resolveChoices (registry : Registry) (location : Location) (position : Nat) :
    List (Binary64 × Rule) → Except ResolutionError Unit
  | [] => .ok ()
  | (_, rule) :: rest => do
    rule.resolve registry (location.item position)
    resolveChoices registry location (position + 1) rest

end

end Rule

namespace Registry

/-- Resolves named rules in order. -/
def resolveRules (registry : Registry) : NamedRules → Except ResolutionError Unit
  | [] => .ok ()
  | (name, rule) :: rest => do
    rule.resolve registry ((Location.start "rules").key name)
    resolveRules registry rest

/-- Resolves every named rule, then looks for a cycle among them. -/
def resolve (registry : Registry) : Except ResolutionError Unit := do
  registry.resolveRules registry.rules
  match registry.rules.findCycle? with
  -- A cycle is told at the name that it was closed from.
  | some cycle => .error ⟨.cycle cycle, (Location.start "rules").key (cycle.headD "")⟩
  | none => .ok ()

end Registry

end LocoSounds
