import LocoSounds.FilePath
import LocoSounds.Registry.Build
import LocoSounds.Yaml.Fault

/-! The library: the sounds and rules of the documents loaded so far, merged into one. -/

namespace LocoSounds

/-- Merged sections, with the directory that documents come from unless another one is given. -/
structure Library where
  directory : Option FilePath
  sounds : Entries
  rules : Entries
  journal : List Event

/-- Why nothing more could be loaded. -/
inductive LoadError where
  | build (error : BuildError)
  /-- What is merged is no mapping. -/
  | notMapping
  | noSuchFile (path : FilePath)
  | noSuchDirectory (path : FilePath)
  /-- There is no directory to load. -/
  | noDirectoryGiven
  /-- A directory stands where a file is read. -/
  | isDirectory (path : FilePath)
  /-- A file stands where a directory is listed. -/
  | notDirectory (path : FilePath)
  /-- The bytes of a file are no text. -/
  | notText (path : FilePath)
  /-- A scalar of a document has no value. -/
  | noValue (fault : Yaml.ValueFault)
  deriving DecidableEq

/-- Steps that load documents. What they changed before an error stays changed. -/
abbrev Loading := ExceptT LoadError (StateM Library)

/-- The wording of a build error. -/
def BuildError.message : BuildError → String
  | .parse error => error.message
  | .resolution error => error.message
  | .carTypesNotIterable => "The known car types must be a list"

/-- The wording of a load error. -/
def LoadError.message : LoadError → String
  | .build error => error.message
  | .notMapping => "A document that is merged must be a mapping"
  | .noSuchFile path => "Config file not found: " ++ path.text
  | .noSuchDirectory path => "Config directory not found: " ++ path.text
  | .noDirectoryGiven => "No config directory specified"
  | .isDirectory path => "Is a directory: " ++ path.text
  | .notDirectory path => "Not a directory: " ++ path.text
  | .notText path => "Not a text: " ++ path.text
  | .noValue fault => fault.message

namespace Library

/-- A library without entries. -/
def empty (directory : Option FilePath) : Library := ⟨directory, [], [], []⟩

/-- The merged section. -/
def entries (library : Library) : Section → Entries
  | .sounds => library.sounds
  | .rules => library.rules

/-- The library with another section. -/
def withSection (library : Library) (part : Section) (entries : Entries) : Library :=
  match part with
  | .sounds => { library with sounds := entries }
  | .rules => { library with rules := entries }

/-- Puts an entry into a section, in place of one of the same key, which is recorded. -/
def put (source : String) (part : Section) (library : Library) (entry : Scalar × Token) : Library :=
  let (key, token) := entry
  let entries := library.entries part
  let written := library.withSection part (entries.insert key token)
  -- The entry is written either way. Only that it hides another one is recorded.
  if entries.hasKey key then
    { written with journal := written.journal ++ [.overridden source part key] }
  else written

/-- Puts all entries of a document's section into the library. An absent section has none. -/
def mergeSection (source : String) (part : Section) (document : Entries) : Loading Unit :=
  match document.getD part.name with
  | .scalar .null => return ()
  | .mapping entries => modify fun library => entries.foldl (put source part) library
  | _ => throw (.build (.parse (.malformed (.sectionNotMapping part) (.start source))))

/-- Merges a document from a named source: its sounds, then its rules. -/
def merge (source : String) (document : Token) : Loading Unit :=
  match document with
  | .mapping entries => do
    -- Sounds that are merged stay, even if the rules turn out to be no mapping.
    mergeSection source .sounds entries
    mergeSection source .rules entries
  | _ => throw .notMapping

/-- The merged document. -/
def document (library : Library) : Token :=
  .mapping [(.text Section.sounds.name, .mapping library.sounds),
    (.text Section.rules.name, .mapping library.rules)]

/-- The registry of what has been merged. -/
def build (carTypes : Token) : Loading Registry := do
  let library ← get
  -- A build that fails records nothing.
  match Registry.build (.mapping library.rules) (.mapping library.sounds) carTypes with
  | .ok registry =>
    set { library with journal := library.journal ++ registry.builtEvents }
    return registry
  | .error error => throw (.build error)

end Library

end LocoSounds
