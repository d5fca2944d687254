import LocoSounds.FilePath

/-! Trees of files that configurations are loaded from. -/

namespace LocoSounds

/-- A file with its bytes, or a directory with the names in it. -/
inductive FileTree where
  | file (bytes : ByteArray)
  | directory (entries : List (String × FileTree))

instance : Inhabited FileTree := ⟨.directory []⟩

namespace FileTree

/-- A directory without names. -/
def empty : FileTree := .directory []

/-- The names in a directory with what they stand for. Files have none. -/
def entries : FileTree → List (String × FileTree)
  | .file _ => []
  | .directory entries => entries

/-- Names can be looked up in it. -/
def isDirectory : FileTree → Bool
  | .file _ => false
  | .directory _ => true

/-- What some names lead to, each looked up where the one before it led.
Double dots lead back to the directory around, of which `outer` holds the innermost first. -/
def walk (outer : List FileTree) : FileTree → List String → Option FileTree
  | tree, [] => some tree
  | .file _, _ :: _ => none
  | .directory entries, name :: rest =>
    if name = ".." then
      match outer with
      | [] => walk [] (.directory entries) rest
      | around :: outer => walk outer around rest
    else match entries.lookup name with
      | some inner => walk (.directory entries :: outer) inner rest
      | none => none

/-- What a path leads to. Relative paths start where absolute ones do. -/
def find? (tree : FileTree) (path : FilePath) : Option FileTree := tree.walk [] path.names

/-- The tree with another one at the end of some names, which lead through directories. -/
def insert (tree : FileTree) (names : List String) (inner : FileTree) : FileTree :=
  match names with
  | [] => inner
  | name :: rest =>
    let below := insert ((tree.entries.lookup name).getD empty) rest inner
    .directory (tree.entries.filter (·.1 ≠ name) ++ [(name, below)])

end FileTree

end LocoSounds
