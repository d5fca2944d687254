import LocoSounds.Text.Lines

/-! Paths of files: texts in which slashes separate names. -/

namespace LocoSounds

/-- Where a path starts. -/
inductive PathRoot where
  | relative
  | absolute
  /-- Exactly two slashes start a path of their own. -/
  | doubled
  deriving DecidableEq

/-- A path with its names. Empty names and single dots are left out, double dots are kept. -/
structure FilePath where
  root : PathRoot
  names : List String
  deriving DecidableEq

/-- The slashes that a path starts with. -/
def PathRoot.text : PathRoot → String
  | .relative => ""
  | .absolute => "/"
  | .doubled => "//"

namespace FilePath

/-- A piece between slashes leads somewhere. -/
def isName (name : List Char) : Bool := name ≠ [] && name ≠ ['.']

/-- The start of a path. -/
def rootOf (chars : List Char) : PathRoot :=
  match (chars.takeWhile (· = '/')).length with
  | 0 => .relative
  | 2 => .doubled
  | _ => .absolute

/-- The path that a text writes. -/
def ofText (text : String) : FilePath :=
  ⟨rootOf text.toList, ((pieces '/' text.toList).filter isName).map String.ofList⟩

/-- The written form, where a dot stands for the place that a relative path starts from. -/
def text (path : FilePath) : String :=
  if path = ⟨.relative, []⟩ then "." else path.root.text ++ "/".intercalate path.names

/-- A path followed from the end of another one. -/
def join (path other : FilePath) : FilePath :=
  match other.root with
  | .relative => { path with names := path.names ++ other.names }
  | _ => other

/-- A name in the directory at the end of a path. -/
def child (path : FilePath) (name : String) : FilePath := { path with names := path.names ++ [name] }

/-- The last dot of a name and what follows it. A name has none if its only dot stands at an end. -/
def suffix (name : String) : String :=
  let reversed := name.toList.reverse
  let ending := reversed.takeWhile (· ≠ '.')
  if ending.isEmpty || reversed.length ≤ ending.length + 1 then ""
  else String.ofList ('.' :: ending.reverse)

end FilePath

end LocoSounds
