/-! Places in configuration documents. -/

namespace LocoSounds

/-- One step from a value to a part of it. -/
inductive Step where
  /-- To the value under a key. -/
  | key (name : String)
  /-- To the item at a position of a list. -/
  | item (position : Nat)
  deriving DecidableEq

/-- A named starting point and the steps taken from it. -/
structure Location where
  base : String
  steps : List Step
  deriving DecidableEq

/-- A key follows a dot, a position stands in brackets. -/
def Step.text : Step → String
  | .key name => "." ++ name
  | .item position => "[" ++ toString position ++ "]"

namespace Location

/-- The starting point itself. -/
def start (base : String) : Location := ⟨base, []⟩

/-- The document as a whole, which has no written form. -/
def document : Location := start ""

/-- The value under a key of the value here. -/
def key (location : Location) (name : String) : Location :=
  { location with steps := location.steps ++ [.key name] }

/-- The item at a position of the list here. -/
def item (location : Location) (position : Nat) : Location :=
  { location with steps := location.steps ++ [.item position] }

/-- The written form. -/
def text (location : Location) : String :=
  location.steps.foldl (fun text step => text ++ step.text) location.base

end Location

/-- A message with the place it is about, where that has a written form. -/
def located (message : String) (path : String) : String :=
  if path.isEmpty then message else message ++ " (at " ++ path ++ ")"

end LocoSounds
