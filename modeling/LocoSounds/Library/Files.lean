import LocoSounds.FileTree
import LocoSounds.Library
import LocoSounds.Yaml.Document

/-! Loading the documents of files and directories into a library. -/

namespace LocoSounds

/-- The endings, in lower case, of names of configuration files. -/
def configurationSuffixes : List String := [".yaml", ".yml", ".json"]

/-- A file of this name holds a configuration. -/
def isConfigurationName (name : String) : Bool :=
  configurationSuffixes.contains (lowercase (FilePath.suffix name))

/-- Characters in which each line ends in a newline, however its end was written. -/
def uniformNewlines : List Char → List Char
  | [] => []
  | '\r' :: '\n' :: rest => '\n' :: uniformNewlines rest
  | '\r' :: rest => '\n' :: uniformNewlines rest
  | c :: rest => c :: uniformNewlines rest

/-- The document of a file's bytes, where nothing at all counts as an empty mapping. -/
def readDocument (path : FilePath) (bytes : ByteArray) : Except LoadError Token :=
  match String.fromUTF8? bytes with
  | none => .error (.notText path)
  | some text =>
    let malformed := fun fault => LoadError.build (.parse (.malformed fault (.start path.text)))
    -- A value that cannot be built has an error of its own, and all other faults share one.
    match Yaml.read (String.ofList (uniformNewlines text.toList)) with
    | .error (.value fault) => .error (.noValue fault)
    | .error _ => .error (malformed .invalidDocument)
    | .ok (.scalar .null) => .ok (.mapping [])
    | .ok (.mapping entries) => .ok (.mapping entries)
    | .ok _ => .error (malformed .documentNotMapping)

/-- The document of the file at a path. -/
def FileTree.document (tree : FileTree) (path : FilePath) : Except LoadError Token :=
  match tree.find? path with
  | none => .error (.noSuchFile path)
  | some (.directory _) => .error (.isDirectory path)
  | some (.file bytes) => readDocument path bytes

/-- The names of the configurations in the directory at a path, in order. -/
def FileTree.configurationNames (tree : FileTree) (path : FilePath) : Except LoadError (List String) :=
  match tree.find? path with
  | none => .error (.noSuchDirectory path)
  | some (.file _) => .error (.notDirectory path)
  | some (.directory entries) =>
    .ok (((entries.map (·.1)).filter isConfigurationName).mergeSort fun a b => a ≤ b)

namespace Library

/-- Merges the document of a file and gives it. -/
def loadFile (tree : FileTree) (path : FilePath) : Loading Token := do
  let document ← tree.document path
  merge path.text document
  return document

/-- Merges the configurations in a directory, in the order of their names, which are given.
Without a path it is the library's own directory. -/
def loadDirectory (tree : FileTree) (path : Option FilePath) : Loading (List String) := do
  let library ← get
  match path.or library.directory with
  | none => throw .noDirectoryGiven
  | some path =>
    -- The first file that fails ends the loading, and the files before it stay merged.
    let names ← tree.configurationNames path
    names.forM fun name => discard (loadFile tree (path.child name))
    return names

/-- The registry of the file or directory at a path. -/
def loadAll (tree : FileTree) (path : FilePath) (carTypes : Token) : Loading Registry := do
  -- What does not exist is loaded like a file, which then tells that it is missing.
  if (tree.find? path).any FileTree.isDirectory then
    discard (loadDirectory tree (some path))
  else
    discard (loadFile tree path)
  build carTypes

end Library

/-- The registry of the file or directory at a path, with the events of its loading. -/
def Registry.load (tree : FileTree) (path : FilePath) (carTypes : Token) :
    Except LoadError Registry × List Event :=
  let (result, library) := (Library.loadAll tree path carTypes).run (Library.empty none)
  (result, library.journal)

end LocoSounds
