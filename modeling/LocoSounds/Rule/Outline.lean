import LocoSounds.Binary64.Text
import LocoSounds.Rule.Choice
import LocoSounds.Text.Lines

/-! Outlines of rules: one line for each rule, parts indented below the whole. -/

namespace LocoSounds

namespace Rule

/-- Some lines, each behind two more spaces. -/
def nested (lines : List String) : List String := lines.map (indentLine 2)

/-- Lines whose first one stands behind a label. -/
def labelled (label : String) : List String → List String
  | [] => [label]
  | line :: rest => (label ++ line) :: rest

mutual

/-- The lines of a rule's outline. -/
def outlineLines : Rule → List String
  | .allOf [] => ["AllOf: (empty)"]
  | .allOf rules => "AllOf:" :: nested (outlineAll rules)
  | .oneOf choices =>
    let total := (totalWeight (choices.map Prod.fst)).briefText
    "OneOf:" :: nested (outlineChoices total choices)
  | .when property value rule =>
    -- A value may have newlines, which break the heading into lines of their own.
    lines ("If " ++ property.name ++ " = " ++ value ++ ":") ++ nested rule.outlineLines
  | .ref name => lines ("Ref \"" ++ name ++ "\"")
  | .sound name => lines ("Sound \"" ++ name ++ "\"")

/-- The lines of the outlines of some rules. -/
def outlineAll : List Rule → List String
  | [] => []
  | rule :: rest => rule.outlineLines ++ outlineAll rest

/-- The lines of the outlines of alternatives, each behind its share of the total weight. -/
def outlineChoices (total : String) : List (Binary64 × Rule) → List String
  | [] => []
  | (weight, rule) :: rest =>
    labelled (weight.briefText ++ "/" ++ total ++ ": ") rule.outlineLines
      ++ outlineChoices total rest

end

/-- A readable text of a rule. -/
def outline (rule : Rule) : String := unlines rule.outlineLines

end Rule

end LocoSounds
