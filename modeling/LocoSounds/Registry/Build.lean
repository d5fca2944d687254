import LocoSounds.Journal
import LocoSounds.Registry.Resolution
import LocoSounds.Rule.Grammar
import LocoSounds.Sound.Grammar

/-! Building registries from the sections of a configuration. -/

namespace LocoSounds

/-- Why no registry can be built. -/
inductive BuildError where
  | parse (error : ParseError)
  | resolution (error : ResolutionError)
  /-- The known car types cannot be gone through. -/
  | carTypesNotIterable
  deriving DecidableEq

/-- Why sections and car types cannot be put together without being resolved. -/
inductive AssemblyError where
  | parse (error : ParseError)
  | fields (errors : List FieldError)
  deriving DecidableEq

namespace Registry

/-- Car types as they are compared: the written form of each token in lower case, if all have one. -/
def carTypesOf? (tokens : List Token) : Option (List String) := do
  let listed ← tokens.mapM Token.plain?
  some (listed.map lowercase)

/-- The known car types that a token lists, where null stands for the default ones. -/
def readCarTypes (token : Token) : Except BuildError (List String) :=
  if token.isNull then .ok defaultCarTypes
  else match token.elements? with
    | some tokens =>
      match carTypesOf? tokens with
      | some carTypes => .ok carTypes
      | none => .error (.parse (.malformed .tooManyDigits (.start "known_car_types")))
    | none => .error .carTypesNotIterable

/-- The rules and sounds of two sections. -/
def parseSections (rules sounds : Token) :
    Except ParseError (NamedRules × List (String × Sound)) := do
  let rules ← Rule.ofSection rules
  let sounds ← Sound.ofSection sounds
  .ok (rules, sounds)

/-- The registry of two sections, resolved, with car types from a token. -/
def build (rules sounds carTypes : Token) : Except BuildError Registry := do
  let (rules, sounds) ← (parseSections rules sounds).mapError .parse
  let carTypes ← readCarTypes carTypes
  let registry : Registry := { rules, sounds, carTypes }
  -- No name is looked up before both sections and the car types are read.
  registry.resolve.mapError .resolution
  .ok registry

/-- The registry of a document. -/
def ofDocument (document carTypes : Token) : Except BuildError Registry :=
  match document with
  | .mapping entries =>
    build (Entries.getD entries "rules") (Entries.getD entries "sounds") carTypes
  | _ => .error (.parse (.malformed .documentNotMapping .document))

/-- The registry of two sections that is not resolved, so that names may stand for nothing.
Its car types must be a sequence. -/
def assemble (rules sounds carTypes : Token) : Except AssemblyError Registry := do
  let (rules, sounds) ← (parseSections rules sounds).mapError .parse
  if carTypes.isNull then .ok { rules, sounds, carTypes := defaultCarTypes }
  else match carTypes.items? with
    | some tokens =>
      match carTypesOf? tokens with
      | some carTypes => .ok { rules, sounds, carTypes }
      | none => .error (.fields [⟨["known_car_types"], .tooManyDigits⟩])
    | none => .error (.fields [⟨["known_car_types"], .notSet⟩])

/-- What the journal says once a registry is built. -/
def builtEvents (registry : Registry) : List Event :=
  [.built registry.rules.length registry.sounds.length, .outlined registry.outline]

end Registry

end LocoSounds
