import LocoSounds.Draw
import LocoSounds.Journal
import LocoSounds.Registry
import LocoSounds.Skin

/-! Evaluation: applying rules to a car, which draws numbers and fills slots. -/

namespace LocoSounds

/-- Why an evaluation ends early. -/
inductive EvaluationFault where
  | noSuchRule (name : String)
  | noSuchSound (name : String)
  /-- A rule came up again while it was being applied. -/
  | reentered (name : String)
  | notLoaded
  deriving DecidableEq

/-- The wording of an evaluation fault. -/
def EvaluationFault.message : EvaluationFault → String
  | .noSuchRule name => "Reference to unknown rule \"" ++ name ++ "\""
  | .noSuchSound name => "Reference to unknown sound \"" ++ name ++ "\""
  | .reentered name => "Reference back to rule \"" ++ name ++ "\""
  | .notLoaded => "No sound configuration has been loaded"

/-- What an evaluation reads and writes. -/
structure Run (σ π : Type) where
  draws : σ
  skins : π
  sounds : SoundSet
  journal : List Event

namespace Run

/-- The run with one more event in its journal. -/
def record (run : Run σ π) (event : Event) : Run σ π :=
  { run with journal := run.journal ++ [event] }

end Run

/-- What applying a rule does: the run afterwards, with the fault that ended it early if one did. -/
abbrev Effect (σ π : Type) := Run σ π → Option EvaluationFault × Run σ π

namespace Effect

/-- Nothing is done. -/
def done : Effect σ π := fun run => (none, run)

/-- The first effect, then the second unless the first ended early. -/
def andThen (first second : Effect σ π) : Effect σ π := fun run =>
  match first run with
  | (none, run) => second run
  | ended => ended

/-- A fault, recorded in the journal. -/
def fail (fault : EvaluationFault) (event : Event) : Effect σ π := fun run =>
  (some fault, run.record event)

end Effect

/-- Two texts agree but for the case of their letters. -/
def sameIgnoringCase (a b : String) : Bool := lowercase a = lowercase b

section

variable {σ π : Type} [DrawSource σ] [SkinSource π]

/-- What a run finds for a property of a car. -/
def observe (car : Car) (property : CarProperty) (run : Run σ π) : Option String × Run σ π :=
  match property with
  | .carType => (some car.carType, run)
  | .skinName =>
    let (skin, skins) := SkinSource.lookup run.skins car.carId
    (skin, { run with skins })

/-- The effect of a condition: the effect under it, for cars whose property has the value. -/
def Effect.guarded (car : Car) (property : CarProperty) (value : String) (effect : Effect σ π) :
    Effect σ π := fun run =>
  -- The lookup has happened whether or not the value turns out to be the right one.
  let (found, run) := observe car property run
  if found.any (sameIgnoringCase · value) then effect run else (none, run)

/-- Draws a number and records which alternative it chose. -/
def drawChoice (weights : List Binary64) (run : Run σ π) : Option Nat × Run σ π :=
  -- The draw is taken and recorded even where it chooses nothing.
  let (draw, draws) := DrawSource.draw run.draws
  let index := choose? (thresholds weights) draw.value
  (index, { run with draws }.record (.chosen weights (thresholds weights) draw index))

/-- The effect of a sound of a name. -/
def Effect.ofSound (registry : Registry) (name : String) : Effect σ π :=
  match registry.sound? name with
  | some sound => fun run => (none, { run with sounds := sound.apply run.sounds })
  | none => .fail (.noSuchSound name) (.soundUndefined name)

namespace Rule

mutual

/-- The effect of a rule, given the effects of the rules it refers to. -/
def effect (registry : Registry) (car : Car) (call : String → Effect σ π) : Rule → Effect σ π
  | .allOf rules => effectOfAll registry car call rules
  | .oneOf choices => fun run =>
    -- A draw above every threshold applies nothing and is no fault.
    match drawChoice (choices.map (·.1)) run with
    | (some index, run) => effectOfChoice registry car call index choices run
    | (none, run) => (none, run)
  | .when property value rule => .guarded car property value (rule.effect registry car call)
  | .ref name => call name
  | .sound name => .ofSound registry name

/-- The effects of some rules, one after the other. -/
def effectOfAll (registry : Registry) (car : Car) (call : String → Effect σ π) :
    List Rule → Effect σ π
  | [] => .done
  | rule :: rest => (rule.effect registry car call).andThen (effectOfAll registry car call rest)

/-- The effect of the alternative at an index. -/
def effectOfChoice (registry : Registry) (car : Car) (call : String → Effect σ π) :
    Nat → List (Binary64 × Rule) → Effect σ π
  | _, [] => .done
  | 0, (_, rule) :: _ => rule.effect registry car call
  | index + 1, _ :: rest => effectOfChoice registry car call index rest

end

end Rule

namespace Registry

/-- A rule found under a name is one of the defined names. -/
theorem mem_names_of_rule? {registry : Registry} {name : String} {rule : Rule}
    (found : registry.rule? name = some rule) : name ∈ registry.rules.names := by
  -- The lookup stops at an entry of exactly this name.
  obtain ⟨before, after, split, _⟩ := List.lookup_eq_some_iff.mp found
  simp [NamedRules.names, split]

/-- The effect of the rule of a name, reached through references from the rules of a chain. -/
def call (registry : Registry) (car : Car) (chain : List String) (name : String) : Effect σ π :=
  match _found : registry.rule? name with
  | none => .fail (.noSuchRule name) (.ruleUndefined name)
  | some rule =>
    -- Only names that are not open are entered, so each call leaves fewer of them.
    if _open : name ∈ chain then .fail (.reentered name) (.ruleReentered name)
    else rule.effect registry car fun other => registry.call car (name :: chain) other
termination_by (registry.rules.unvisited chain).length
decreasing_by
  exact NamedRules.unvisited_length_lt _ chain name (mem_names_of_rule? _found) _open

/-- The effect of a rule. -/
def apply (registry : Registry) (car : Car) (rule : Rule) : Effect σ π :=
  rule.effect registry car (registry.call car [])

/-- The effect of the rule of a name. -/
def applyNamed (registry : Registry) (car : Car) (name : String) : Effect σ π :=
  registry.apply car (.ref name)

/-- Fills a fresh sound set by the rule of a name and records what was selected. -/
def select (registry : Registry) (car : Car) (name : String) : Effect σ π := fun run =>
  -- The sounds that were there before are no part of a selection.
  match registry.applyNamed car name { run with sounds := .empty } with
  | (none, run) => (none, run.record (.selected car run.sounds.names))
  | ended => ended

end Registry

end

end LocoSounds
