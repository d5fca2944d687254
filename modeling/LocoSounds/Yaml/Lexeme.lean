import LocoSounds.Yaml.Fault
import LocoSounds.Yaml.TagName

/-! Lexemes of YAML documents, with marks where indentation opens and closes collections. -/

namespace LocoSounds.Yaml

/-- A piece of a document. -/
inductive Lexeme where
  | versionDirective (major : Nat)
  | tagDirective (handle start : String)
  | otherDirective
  | documentStart
  | documentEnd
  | streamEnd
  | blockSequenceStart
  | blockMappingStart
  | blockEnd
  | sequenceStart
  | sequenceEnd
  | mappingStart
  | mappingEnd
  | blockEntry
  | flowEntry
  | key
  | value
  | alias (name : String)
  | anchor (name : String)
  | tag (name : TagName)
  /-- A plain scalar may stand for something else than its text. -/
  | scalar (plain : Bool) (text : String)
  deriving DecidableEq

/-- A lexeme that the content of a document does not start with. -/
def Lexeme.endsContent : Lexeme → Bool
  | .versionDirective _ | .tagDirective .. | .otherDirective => true
  | .documentStart | .documentEnd | .streamEnd => true
  | _ => false

/-- The number at the front, and what follows it. -/
def directiveNumber (rest : List Spot) : Except Fault (Nat × List Spot) :=
  let (digits, rest) := spanChars Char.isDigit rest
  if digits.isEmpty then .error .badName
  else if longestInteger < digits.length then .error (.value (.tooManyDigits digits.length))
  else .ok (digitsValue digits, rest)

/-- The two numbers of a version at the front, of which the first is given, and what follows them. -/
def versionNumbers (rest : List Spot) : Except Fault (Nat × List Spot) := do
  let (major, rest) ← directiveNumber rest
  if front rest ≠ '.' then .error .badName
  else do
    let (_, rest) ← directiveNumber (rest.drop 1)
    if endsWord rest then .ok (major, rest) else .error .badName

/-- The handle at the front and what it stands for, and what follows them. -/
def handleDeclaration? (rest : List Spot) : Option (Lexeme × List Spot) := do
  let (handle, rest) ← tagHandle? rest
  if front rest ≠ ' ' then none
  else do
    let (start, rest) ← tagBody? (dropChars (· = ' ') rest)
    if endsWord rest then some (.tagDirective handle start, rest) else none

/-- The directive at the front, and what follows its line. -/
def directiveLexeme (rest : List Spot) : Except Fault (Lexeme × List Spot) := do
  let (name, rest) := spanChars isNameChar (rest.drop 1)
  if name.isEmpty ∨ !endsWord rest then .error .badName
  else do
    let (lexeme, rest) ← match String.ofList name with
      | "YAML" => do
        let (major, rest) ← versionNumbers (dropChars (· = ' ') rest)
        .ok (Lexeme.versionDirective major, rest)
      | "TAG" => ((handleDeclaration? (dropChars (· = ' ') rest)).elim (.error .badName) .ok :
          Except Fault (Lexeme × List Spot))
      | _ => .ok (Lexeme.otherDirective, dropChars (! isBreakOrEnd ·) rest)
    (dropLineEnd? rest).elim (.error .badName) fun rest => .ok (lexeme, rest)

end LocoSounds.Yaml
