import LocoSounds.Yaml.Lexer
import LocoSounds.Yaml.Node

/-! Putting lexemes together as the nodes of a document. -/

namespace LocoSounds.Yaml

/-- Where a node stands, which decides what it may be. -/
inductive Place where
  | flow
  | block
  /-- In a mapping, where a list may start in the column of its key. -/
  | entry
  deriving DecidableEq

/-- A document that is being put together from its lexemes. -/
structure Composer where
  rest : List Lexeme
  /-- What is wrong after the lexemes. -/
  fault : Option Fault
  /-- The nodes with names, without those that are not complete. -/
  anchors : List (String × Node)
  /-- The names of the nodes around, which are not complete, and whether these are part of themselves. -/
  around : List (String × Bool)
  /-- What the handles of tags stand for. -/
  handles : List (String × String)

/-- Steps that take lexemes. -/
abbrev Composing := StateT Composer (Except Fault)

namespace Composing

/-- The lexeme at the front. A fault comes up where there are no more lexemes before it. -/
def next : Composing Lexeme := do
  let composer ← get
  match composer.rest, composer.fault with
  | lexeme :: _, _ => return lexeme
  | [], some fault => throw fault
  | [], none => return .streamEnd

/-- Goes on to the next lexeme. -/
def skip : Composing Unit :=
  modify fun composer => { composer with rest := composer.rest.tail }

/-- One of some lexemes is at the front. -/
def frontIsOneOf (lexemes : List Lexeme) : Composing Bool := do
  return lexemes.contains (← next)

/-- Takes a lexeme that must be at the front. -/
def expect (lexeme : Lexeme) : Composing Unit := do
  if (← next) = lexeme then skip else throw .badStructure

/-- The handles that need no directive. -/
def defaultHandles : List (String × String) := [("!", "!"), ("!!", "tag:yaml.org,2002:")]

/-- The whole tag that a tag name stands for. -/
def wholeTag (name : TagName) : Composing (Option String) := do
  match name.handle with
  | none => return if name.isBare then none else some name.suffix
  | some handle =>
    match (← get).handles.lookup handle with
    | some start => return some (start ++ name.suffix)
    | none => throw .badName

/-- The anchor and the tag before a node, in either order. -/
def properties : Composing (Option String × Option TagName) := do
  match ← next with
  | .anchor name =>
    skip
    match ← next with
    | .tag tag => skip; return (some name, some tag)
    | _ => return (some name, none)
  | .tag tag =>
    skip
    match ← next with
    | .anchor name => skip; return (some name, some tag)
    | _ => return (none, some tag)
  | _ => return (none, none)

/-- The node that a name stands for. -/
def aliased (name : String) : Composing Node := do
  let composer ← get
  match composer.anchors.lookup name with
  | some node => return node
  | none =>
    if (composer.around.lookup name).isNone then throw .unknownAnchor
    set { composer with
      around := composer.around.map fun (other, inside) => (other, inside || other = name) }
    return .enclosing name

/-- No node has the name yet. -/
def checkUnused (name : String) : Composing Unit := do
  let composer ← get
  if (composer.anchors.lookup name).isSome || (composer.around.lookup name).isSome then
    throw .repeatedAnchor

/-- Names a node that has parts, which are still to come. -/
def beginNode (anchor : Option String) : Composing Unit :=
  match anchor with
  | none => return ()
  | some name => modify fun composer => { composer with around := (name, false) :: composer.around }

/-- Names a node that is complete. Where it is part of itself, its inner occurrences and those in the
nodes inside it are filled in. -/
def endNode (anchor : Option String) (node : Node) : Composing Node := do
  match anchor with
  | none => return node
  | some name =>
    let composer ← get
    let inside := (composer.around.lookup name).getD false
    let node := if inside then node.nest name Node.nesting else node
    let anchors := if inside then composer.anchors.map fun (other, part) => (other, Node.fill name node part)
      else composer.anchors
    set { composer with
      anchors := (name, node) :: anchors
      around := composer.around.filter (·.1 ≠ name) }
    return node

mutual

/-- The node at the front. -/
def node (fuel : Nat) (place : Place) : Composing Node := do
  match fuel with
  | 0 => throw .badStructure
  | fuel + 1 =>
    match ← next with
    | .alias name =>
      skip
      aliased name
    | _ =>
      let (anchor, name) ← properties
      let tag ← match name with
        | some name => wholeTag name
        | none => pure none
      -- What follows the anchor and the tag is looked at before the anchor is.
      let front ← next
      anchor.forM checkUnused
      let content ← match front, place with
        | .scalar plain text, _ => do
          skip
          -- A tag takes away the other meanings that a plain scalar may have.
          pure (Node.scalar tag (plain && tag.isNone || name.any TagName.isBare) text)
        | .sequenceStart, _ => do
          beginNode anchor
          skip
          pure (Node.sequence tag (← flowSequence fuel true))
        | .mappingStart, _ => do
          beginNode anchor
          skip
          pure (Node.mapping tag (← flowMapping fuel true))
        | .blockEntry, .entry => do
          beginNode anchor
          pure (Node.sequence tag (← hangingSequence fuel))
        | .blockSequenceStart, .block | .blockSequenceStart, .entry => do
          beginNode anchor
          skip
          pure (Node.sequence tag (← blockSequence fuel))
        | .blockMappingStart, .block | .blockMappingStart, .entry => do
          beginNode anchor
          skip
          pure (Node.mapping tag (← blockMapping fuel))
        | _, _ =>
          if anchor.isSome || name.isSome then pure (Node.scalar tag tag.isNone "")
          else throw .badStructure
      endNode anchor content

/-- The node at the front, or an empty one where one of some lexemes is there. -/
def nodeUnless (fuel : Nat) (place : Place) (ends : List Lexeme) : Composing Node := do
  match fuel with
  | 0 => throw .badStructure
  | fuel + 1 => if ← frontIsOneOf ends then return .empty else node fuel place

/-- The items of an indented list up to its end. -/
def blockSequence (fuel : Nat) : Composing (List Node) := do
  match fuel with
  | 0 => throw .badStructure
  | fuel + 1 =>
    if (← next) = .blockEntry then
      skip
      let item ← nodeUnless fuel .block [.blockEntry, .blockEnd]
      return item :: (← blockSequence fuel)
    else
      expect .blockEnd
      return []

/-- The items of a list that starts in the column of its key. -/
def hangingSequence (fuel : Nat) : Composing (List Node) := do
  match fuel with
  | 0 => throw .badStructure
  | fuel + 1 =>
    if (← next) = .blockEntry then
      skip
      let item ← nodeUnless fuel .block [.blockEntry, .key, .value, .blockEnd]
      return item :: (← hangingSequence fuel)
    else return []

/-- The entries of an indented mapping up to its end. -/
def blockMapping (fuel : Nat) : Composing (List (Node × Node)) := do
  match fuel with
  | 0 => throw .badStructure
  | fuel + 1 =>
    let ends := [Lexeme.key, .value, .blockEnd]
    if (← next) = .key then
      skip
      let key ← nodeUnless fuel .entry ends
      let value ← if (← next) = .value then do
          skip
          nodeUnless fuel .entry ends
        else pure Node.empty
      return (key, value) :: (← blockMapping fuel)
    else
      expect .blockEnd
      return []

/-- A key and its value between brackets, the mark of the key being taken already. -/
def flowEntry (fuel : Nat) (close : Lexeme) : Composing (Node × Node) := do
  match fuel with
  | 0 => throw .badStructure
  | fuel + 1 =>
    let key ← nodeUnless fuel .flow [.value, .flowEntry, close]
    let value ← if (← next) = .value then do
        skip
        nodeUnless fuel .flow [.flowEntry, close]
      else pure Node.empty
    return (key, value)

/-- The items of a list in brackets up to its end. -/
def flowSequence (fuel : Nat) (first : Bool) : Composing (List Node) := do
  match fuel with
  | 0 => throw .badStructure
  | fuel + 1 =>
    if (← next) = .sequenceEnd then
      skip
      return []
    else
      if !first then expect .flowEntry
      -- A comma may stand before the end.
      if (← next) = .sequenceEnd then
        skip
        return []
      let item ← if (← next) = .key then do
          skip
          -- A single entry is a mapping of its own.
          let entry ← flowEntry fuel .sequenceEnd
          pure (Node.mapping none [entry])
        else node fuel .flow
      return item :: (← flowSequence fuel false)

/-- The entries of a mapping in braces up to its end. -/
def flowMapping (fuel : Nat) (first : Bool) : Composing (List (Node × Node)) := do
  match fuel with
  | 0 => throw .badStructure
  | fuel + 1 =>
    if (← next) = .mappingEnd then
      skip
      return []
    else
      if !first then expect .flowEntry
      if (← next) = .mappingEnd then
        skip
        return []
      let entry ← if (← next) = .key then do
          skip
          flowEntry fuel .mappingEnd
        else do
          let key ← node fuel .flow
          pure (key, Node.empty)
      return entry :: (← flowMapping fuel false)

end

/-- The handles that the directives at the front declare. -/
def directives (fuel : Nat) (versioned : Bool) (declared : List (String × String)) :
    Composing (List (String × String)) := do
  match fuel with
  | 0 => return declared
  | fuel + 1 =>
    match ← next with
    | .versionDirective major =>
      if versioned ∨ major ≠ 1 then throw .badName
      skip
      directives fuel true declared
    | .tagDirective handle start =>
      if (declared.lookup handle).isSome then throw .badName
      skip
      directives fuel versioned ((handle, start) :: declared)
    | .otherDirective =>
      skip
      directives fuel versioned declared
    | _ => return declared

/-- Marks that end a document, and none or more of them. -/
def skipDocumentEnds (fuel : Nat) : Composing Unit := do
  match fuel with
  | 0 => return ()
  | fuel + 1 =>
    if (← next) = .documentEnd then
      skip
      skipDocumentEnds fuel

/-- The only document of a stream, if there is one. -/
def document : Composing (Option Node) := do
  let fuel := 4 * (← get).rest.length + 4
  let explicit ← match ← next with
    | .versionDirective _ | .tagDirective _ _ | .otherDirective | .documentStart => pure true
    | _ => pure false
  if (← next) = .streamEnd then return none
  if explicit then
    let declared ← directives fuel false []
    modify fun composer => { composer with handles := declared ++ defaultHandles }
    expect .documentStart
  let root ← if explicit ∧ (← next).endsContent then pure Node.empty else node fuel .block
  skipDocumentEnds fuel
  if (← next) = .streamEnd then return some root
  discard (directives fuel false [])
  match ← next with
  | .documentStart => throw .secondDocument
  | _ => throw .badStructure

end Composing

/-- The only document of a text, if there is one. -/
def document? (text : String) : Except Fault (Option Node) := do
  let (rest, fault) := lexemes text
  let (root, _) ← Composing.document.run ⟨rest, fault, [], [], Composing.defaultHandles⟩
  return root

end LocoSounds.Yaml
