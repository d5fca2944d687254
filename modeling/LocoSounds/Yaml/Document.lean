import LocoSounds.Yaml.Composition
import LocoSounds.Yaml.Scalar

/-! Reading YAML documents as document values. -/

namespace LocoSounds.Yaml

/-- What a tag says that a node is. -/
inductive Form where
  | scalar (kind : Kind)
  | list
  | mapping
  /-- A mapping of which only the keys count. -/
  | set
  /-- A list of entries, each written as a mapping of its own. -/
  | pairs
  deriving DecidableEq

/-- The tag of a form, by the part that tells it apart. -/
def coreTag (name : String) : String := "tag:yaml.org,2002:" ++ name

/-- What tags say, by the part that tells them apart. -/
def tagForms : List (String × Form) :=
  [("null", .scalar .null), ("bool", .scalar .truth), ("int", .scalar .integer),
    ("float", .scalar .number), ("timestamp", .scalar .time), ("binary", .scalar .binary),
    ("str", .scalar .text), ("merge", .scalar .merge), ("value", .scalar .equals), ("seq", .list),
    ("map", .mapping), ("set", .set), ("omap", .pairs), ("pairs", .pairs)]

/-- What a tag says, or what holds without a tag. -/
def formOf (tag : Option String) (untagged : Form) : Option Form :=
  match tag with
  | none => some untagged
  | some tag => (tagForms.find? fun (name, _) => coreTag name = tag).map (·.2)

/-- What an untagged scalar is. -/
def scalarForm (plain : Bool) (text : String) : Form :=
  .scalar (if plain then .ofPlain text else .text)

namespace Node

/-- The node's form, if its tag has a meaning. -/
def form? : Node → Option Form
  | .scalar tag plain text => formOf tag (scalarForm plain text)
  | .sequence tag _ => formOf tag .list
  | .mapping tag _ => formOf tag .mapping
  | .enclosing _ => none

/-- The node is said to be a scalar of a kind. -/
def isOfKind (kind : Kind) (node : Node) : Bool :=
  node.form? = some (.scalar kind)

mutual

/-- The text that a node has where a scalar is wanted: a mapping has that of its equals sign. -/
def scalarText? : Node → Option String
  | .scalar _ _ text => some text
  | .mapping _ entries => equalsText? entries
  | _ => none

/-- The text of the first entry whose key is an equals sign. -/
def equalsText? : List (Node × Node) → Option String
  | [] => none
  | (key, value) :: rest => if key.isOfKind .equals then value.scalarText? else equalsText? rest

end

end Node

/-- A value, or the fault of a part that has none with the depth of that part. -/
abbrev Found (α : Type) := Except (Nat × Fault) α

namespace Found

/-- The outcome of a step on a value that is here. -/
def here (outcome : Except Fault α) : Found α := outcome.mapError fun fault => (0, fault)

/-- The outcome for a part, seen from the value around it. -/
def inside (found : Found α) : Found α := found.mapError fun (depth, fault) => (depth + 1, fault)

/-- Both values. Of two faults the one of less depth counts, and of equal depth the first. -/
def both (first : Found α) (second : Found β) : Found (α × β) :=
  match first, second with
  | .ok a, .ok b => .ok (a, b)
  | .error fault, .ok _ => .error fault
  | .ok _, .error fault => .error fault
  | .error fault, .error other => if other.1 < fault.1 then .error other else .error fault

/-- All values, with the fault that counts if some have none. -/
def all : List (Found α) → Found (List α)
  | [] => .ok []
  | found :: rest => (found.both (all rest)).map fun (value, values) => value :: values

end Found

/-- The scalar of a kind that a node stands for. -/
def scalarOfNode (kind : Kind) (node : Node) : Except Fault Scalar :=
  match node.scalarText? with
  | some text => kind.value text
  | none => .error .wrongTag

/-- The key that a node stands for. An equals sign by itself is text. -/
def keyOf (node : Node) : Except Fault Scalar :=
  match node.form? with
  | none => .error .unknownTag
  | some (.scalar kind) => scalarOfNode (if node.isOfKind .equals then .text else kind) node
  | some _ => .error .compositeKey

/-- A key and its value that were looked for. -/
abbrev FoundEntry := Found (Scalar × Token)

mutual

/-- The token that a node stands for. That a node is no list or mapping as its tag says is found out
no sooner than its parts are looked at. -/
def tokenOf : Node → Found Token
  | .scalar tag plain text =>
    match formOf tag (scalarForm plain text) with
    | some (.scalar kind) => .here ((kind.value text).map Token.scalar)
    | some _ => .error (1, .wrongTag)
    | none => .error (0, .unknownTag)
  | .sequence tag items =>
    match formOf tag .list with
    | some .list => (Found.all (tokensOf items)).inside.map Token.list
    | some .pairs => (Found.all (pairsOf items)).inside.map Token.list
    | some .mapping | some .set => .error (1, .wrongTag)
    | some (.scalar _) => .error (0, .wrongTag)
    | none => .error (0, .unknownTag)
  | .mapping tag entries =>
    let found : Found Entries := match entriesOf entries with
      | .error fault => .error (1, fault)
      -- Merged entries come first, so that the mapping's own ones win.
      | .ok (merged, own) => (Found.all (merged ++ own)).inside.map Entries.ofPairs
    match formOf tag .mapping with
    | some .mapping => found.map Token.mapping
    | some .set => found.map fun entries => .set (entries.map (·.1))
    | some (.scalar kind) => .here ((scalarOfNode kind (.mapping tag entries)).map Token.scalar)
    | some _ => .error (1, .wrongTag)
    | none => .error (0, .unknownTag)
  | .enclosing _ => .error (0, .unknownAnchor)

/-- The tokens that some nodes stand for. -/
def tokensOf : List Node → List (Found Token)
  | [] => []
  | node :: rest => tokenOf node :: tokensOf rest

/-- The entries that some nodes stand for, each a mapping of a single one. -/
def pairsOf : List Node → List (Found Token)
  | [] => []
  | .mapping _ [(key, value)] :: rest =>
    (((tokenOf key).both (tokenOf value)).map fun (key, value) => Token.tuple [key, value])
      :: pairsOf rest
  | _ :: rest => .error (0, .wrongTag) :: pairsOf rest

/-- The merged entries of a mapping and its own ones. What is merged is looked at before any of them. -/
def entriesOf : List (Node × Node) → Except Fault (List FoundEntry × List FoundEntry)
  | [] => .ok ([], [])
  | (key, value) :: rest =>
    if key.isOfKind .merge then do
      let first ← mergedOf value
      let (merged, own) ← entriesOf rest
      .ok (first ++ merged, own)
    else do
      let (merged, own) ← entriesOf rest
      .ok (merged, (Found.here (keyOf key)).both (tokenOf value) :: own)

/-- The entries that a merged node brings: those of a mapping, or of a list of mappings. -/
def mergedOf : Node → Except Fault (List FoundEntry)
  | .mapping _ entries => do
    let (merged, own) ← entriesOf entries
    .ok (merged ++ own)
  | .sequence _ items => mergedOfAll items
  | _ => .error .badMerge

/-- The entries that some merged mappings bring, those of later ones first. -/
def mergedOfAll : List Node → Except Fault (List FoundEntry)
  | [] => .ok []
  | .mapping _ entries :: rest => do
    let (merged, own) ← entriesOf entries
    let later ← mergedOfAll rest
    .ok (later ++ (merged ++ own))
  | _ :: _ => .error .badMerge

end

/-- The value that a text is the document of. A text without a document stands for null. -/
def read (text : String) : Except Fault Token := do
  match ← document? text with
  | some node => (tokenOf node).mapError (·.2)
  | none => .ok .null

end LocoSounds.Yaml
