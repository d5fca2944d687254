import LocoSounds.Binary64.Arithmetic
import LocoSounds.Text.Lowercase

/-! Rules that select sounds for a car. -/

namespace LocoSounds

/-- A property of a car that a rule can test. -/
inductive CarProperty where
  | carType
  | skinName
  deriving DecidableEq

/-- The forms that a rule can have. -/
inductive RuleKind where
  | allOf
  | oneOf
  | when
  | sound
  | ref
  deriving DecidableEq

/-- A tree of rules. Names stand for rules and sounds kept elsewhere. -/
inductive Rule where
  /-- Applies every rule in order. -/
  | allOf (rules : List Rule)
  /-- Applies one rule, drawn with the probability that its weight has among all. -/
  | oneOf (choices : List (Binary64 × Rule))
  /-- Applies a rule only to cars whose property has the value, whatever the case of its letters. -/
  | when (property : CarProperty) (value : String) (rule : Rule)
  /-- Applies the rule of a name. -/
  | ref (name : String)
  /-- Puts the sound of a name into its slot. -/
  | sound (name : String)

instance : Inhabited Rule := ⟨.allOf []⟩

namespace CarProperty

/-- The property's name in documents. -/
def name : CarProperty → String
  | .carType => "CarType"
  | .skinName => "SkinName"

/-- Every property. -/
def all : List CarProperty := [.carType, .skinName]

/-- The property of a name, whatever the case of its letters. -/
def ofName? (name : String) : Option CarProperty :=
  all.find? fun property => lowercase property.name = lowercase name

end CarProperty

namespace RuleKind

/-- The tag that marks a rule of this form in documents. -/
def name : RuleKind → String
  | .allOf => "AllOf"
  | .oneOf => "OneOf"
  | .when => "If"
  | .sound => "Sound"
  | .ref => "Ref"

/-- Every form. -/
def all : List RuleKind := [.allOf, .oneOf, .when, .sound, .ref]

/-- The form of a tag, whatever the case of its letters. -/
def ofName? (name : String) : Option RuleKind :=
  all.find? fun kind => lowercase kind.name = lowercase name

end RuleKind

end LocoSounds
