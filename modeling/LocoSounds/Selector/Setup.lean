import LocoSounds.Bundled
import LocoSounds.Selector
import LocoSounds.Settings
import LocoSounds.Skin.Modules

/-! Setting up the selector that settings describe. -/

namespace LocoSounds

/-- Why a selector cannot be set up. -/
inductive SetupError where
  | provider (fault : ProviderFault)
  | load (error : LoadError)
  deriving DecidableEq

/-- The wording of a setup error. -/
def SetupError.message : SetupError → String
  | .provider fault => fault.message
  | .load error => error.message

namespace Selector

variable {σ π : Type}

/-- A selector that looks skins up where the settings say, before its configuration is loaded. -/
def withSkins (settings : Settings) (modules : Modules π) (draws : σ) :
    Except ProviderFault (Selector σ (Option π)) := do
  let (skins, events) ← modules.load (settings.skinProvider.getD "")
  .ok ⟨none, settings.rootRule, draws, skins, events⟩

/-- Loads the configuration that the settings name. -/
def loadSettings (settings : Settings) (tree : FileTree) (selector : Selector σ π) :
    Except LoadError Registry × Selector σ π :=
  let carTypes := Token.list (settings.knownCarTypes.map .text)
  match settings.configPath with
  | some path => selector.load tree path carTypes
  | none => selector.load Bundled.tree Bundled.path carTypes

/-- The selector that settings describe, with its active registry, and the events on the way to it. -/
def ofSettings (settings : Settings) (modules : Modules π) (tree : FileTree) (draws : σ) :
    Except SetupError (Registry × Selector σ (Option π)) × List Event :=
  match withSkins settings modules draws with
  | .error fault => (.error (.provider fault), [])
  | .ok selector =>
    match loadSettings settings tree selector with
    | (.ok registry, selector) => (.ok (registry, selector), selector.journal)
    | (.error error, selector) => (.error (.load error), selector.journal)

end Selector

end LocoSounds
