import LocoSounds.Evaluation
import LocoSounds.Library.Files

/-! Selectors: the registry in use, and the choice of sounds for cars by it. -/

namespace LocoSounds

/-- An active registry, if there is one, with the name of the rule that is applied unless another is
named, and what evaluations draw from and look skins up in. -/
structure Selector (σ π : Type) where
  registry : Option Registry
  root : String
  draws : σ
  skins : π
  journal : List Event

namespace Selector

variable {σ π : Type}

/-- There is an active registry. -/
def loaded (selector : Selector σ π) : Bool := selector.registry.isSome

/-- The active registry. -/
def active (selector : Selector σ π) : Except EvaluationFault Registry :=
  match selector.registry with
  | some registry => .ok registry
  | none => .error .notLoaded

/-- Makes a registry the active one and gives the one before it. -/
def reload (selector : Selector σ π) (registry : Registry) : Option Registry × Selector σ π :=
  (selector.registry,
    { selector with
      registry := some registry
      journal := selector.journal ++
        [.activated registry.rules.length registry.sounds.length] })

/-- Loads a registry and makes it the active one. Nothing becomes active if it cannot be loaded. -/
def load (selector : Selector σ π) (tree : FileTree) (path : FilePath) (carTypes : Token) :
    Except LoadError Registry × Selector σ π :=
  let (result, events) := Registry.load tree path carTypes
  let selector := { selector with journal := selector.journal ++ events }
  match result with
  | .ok registry => (.ok registry, (selector.reload registry).2)
  | .error error => (.error error, selector)

/-- Runs an effect of the active registry on a sound set. -/
def run (selector : Selector σ π) (effect : Registry → Effect σ π) (sounds : SoundSet) :
    Option EvaluationFault × SoundSet × Selector σ π :=
  match selector.active with
  | .error fault => (some fault, sounds, selector)
  | .ok registry =>
    let (fault, run) := effect registry ⟨selector.draws, selector.skins, sounds, selector.journal⟩
    (fault, run.sounds,
      { selector with draws := run.draws, skins := run.skins, journal := run.journal })

variable [DrawSource σ] [SkinSource π]

/-- Applies the rule of a name to a sound set. -/
def apply (selector : Selector σ π) (root : String) (car : Car) (sounds : SoundSet) :
    Option EvaluationFault × SoundSet × Selector σ π :=
  selector.run (fun registry => registry.applyNamed car root) sounds

/-- The name of the rule to apply. No name and the empty one leave the choice to the selector. -/
def rootOr (selector : Selector σ π) (root : Option String) : String :=
  match root with
  | none => selector.root
  | some name => if name.isEmpty then selector.root else name

/-- The sounds of a car. -/
def select (selector : Selector σ π) (car : Car) (root : Option String) :
    Except EvaluationFault SoundSet × Selector σ π :=
  match selector.run (fun registry => registry.select car (selector.rootOr root)) .empty with
  | (none, sounds, selector) => (.ok sounds, selector)
  | (some fault, _, selector) => (.error fault, selector)

end Selector

end LocoSounds
