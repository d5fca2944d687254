import LocoSounds.Binary64.Text
import LocoSounds.Field
import LocoSounds.Rule

/-! Weighted choice: the weights that may be given and the draws that select each alternative.
Weights, draws and thresholds can be numbers of any kind; those of rules are double-precision ones. -/

namespace LocoSounds

section

variable {α : Type}

/-- The sum of some weights: a plain fold from left to right, which rounds at each addition. This is how
the runtime sums numbers up to version 3.11. From 3.12 on it makes up for what rounding loses, which
is not done here. -/
def totalWeight [Zero α] [Add α] (weights : List α) : α :=
  weights.foldl (· + ·) 0

/-- The sums of the first one, first two and so on of some weights, with `sum` before them. -/
def runningSums [Add α] (sum : α) : List α → List α
  | [] => []
  | weight :: rest => (sum + weight) :: runningSums (sum + weight) rest

/-- The greatest draws that select each alternative. The last is one, whatever rounding gave. -/
def thresholds [Zero α] [One α] [Add α] [Div α] (weights : List α) : List α :=
  let total := totalWeight weights
  ((runningSums 0 weights).map (· / total)).dropLast ++ [1]

/-- The first alternative whose threshold is at or above the draw. -/
def choose? [LE α] [DecidableLE α] (thresholds : List α) (draw : α) : Option Nat :=
  thresholds.findIdx? (draw ≤ ·)

end

/-- Why some rules and weights are no weighted choice. -/
inductive ChoiceFault where
  | noRules
  | noWeights
  | countsDiffer (weights rules : Nat)
  | badWeight (weight : Binary64)
  | totalTooLarge
  deriving DecidableEq

/-- The wording of a choice fault. -/
def ChoiceFault.message : ChoiceFault → String
  | .noRules => "OneOf rule requires at least one sub-rule"
  | .noWeights => "OneOf rule requires weights"
  | .countsDiffer weights rules =>
    "Found " ++ toString weights ++ " weights for " ++ toString rules ++ " rules in OneOf rule"
  | .badWeight weight => "OneOf weights must be positive numbers, got " ++ weight.text
  | .totalTooLarge => "OneOf weights are too large to add up"

/-- A weight is a finite number above zero. -/
def isWeight (weight : Binary64) : Bool := weight.isFinite && .zero < weight

namespace Rule

/-- The choice between rules with the given weights. -/
def choice (rules : List Rule) (weights : Option (List Binary64)) : Except ChoiceFault Rule :=
  -- The checks are made in this order, and the first one that fails is told.
  if rules.isEmpty then .error .noRules
  else match weights with
    | none => .error .noWeights
    | some weights =>
      if weights.length ≠ rules.length then .error (.countsDiffer weights.length rules.length)
      else match weights.find? (!isWeight ·) with
        | some weight => .error (.badWeight weight)
        | none =>
          if (totalWeight weights).isFinite then .ok (.oneOf (weights.zip rules))
          else .error .totalTooLarge

/-- Without weights each of some alternatives weighs one. -/
def evenWeights (count : Nat) : List Binary64 := List.replicate count .one

end Rule

/-- Why a choice could not be made from the values of its fields. -/
inductive ChoiceError where
  | fields (errors : List FieldError)
  | invalid (fault : ChoiceFault)
  deriving DecidableEq

/-- The wording of a choice error. -/
def ChoiceError.message : ChoiceError → String
  | .fields errors => FieldError.messages errors
  | .invalid fault => ": Value error, " ++ fault.message

/-- The choice between rules with the weights that a token holds.
Null stands for even weights, or for none where they are not filled in. -/
def Rule.choiceOfFields (rules : List Rule) (fillWeights : Bool) (weights : Token) :
    Except ChoiceError Rule := do
  -- Null is no list that could be faulty, so it goes past the reading of numbers.
  let weights ← if weights.isNull then
      pure (if fillWeights then some (evenWeights rules.length) else none)
    else match weights.toItems Token.toNumber "weights" with
      | .ok weights => pure (some weights)
      | .error errors => throw (.fields errors)
  match Rule.choice rules weights with
  | .ok rule => pure rule
  | .error fault => throw (.invalid fault)

end LocoSounds
