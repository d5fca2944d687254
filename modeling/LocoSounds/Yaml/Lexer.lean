import LocoSounds.Yaml.Block
import LocoSounds.Yaml.Lexeme
import LocoSounds.Yaml.Plain
import LocoSounds.Yaml.Quoted

/-! Cutting YAML documents into lexemes. -/

namespace LocoSounds.Yaml

/-- A lexeme, or a place where one may turn out to be a key once a colon follows it. -/
inductive Piece where
  | lexeme (lexeme : Lexeme)
  | keyPlace (marks : List Lexeme)

/-- What starts at a place may be the key of an entry. -/
structure KeyCandidate where
  /-- The position of the place among the pieces. -/
  piece : Nat
  /-- The indentation leaves nothing but a key here. -/
  required : Bool
  line : Nat
  column : Nat
  offset : Nat

/-- A document that is being cut into pieces. -/
structure Lexer where
  rest : List Spot
  /-- The number of brackets that are open. -/
  depth : Nat
  /-- The column of the innermost block collection, -1 outside of all. -/
  indent : Int
  /-- The columns of the collections around it, innermost first. -/
  outer : List Int
  /-- A key may start here. -/
  keyAllowed : Bool
  /-- The number of characters of the text, which no part of it exceeds. -/
  size : Nat
  /-- What may be a key, by the number of brackets around it. -/
  candidates : List (Nat × KeyCandidate)
  /-- The pieces so far, the last one first. -/
  pieces : List Piece
  /-- The number of pieces. -/
  count : Nat

namespace Lexer

/-- The lexer at the start of a text. -/
def start (rest : List Spot) : Lexer := ⟨rest, 0, -1, [], true, rest.length, [], [], 0⟩

/-- One more piece. -/
def add (lexer : Lexer) (piece : Piece) : Lexer :=
  { lexer with pieces := piece :: lexer.pieces, count := lexer.count + 1 }

/-- One more lexeme. -/
def push (lexer : Lexer) (lexeme : Lexeme) : Lexer := lexer.add (.lexeme lexeme)

/-- One more lexeme, which some characters at the front are. -/
def take (lexer : Lexer) (count : Nat) (lexeme : Lexeme) : Lexer :=
  { lexer.push lexeme with rest := lexer.rest.drop count }

/-- The column of the front. -/
def here (lexer : Lexer) : Nat := column lexer.rest

/-- Forgets candidates that the front is too far from, which keys that are required must not be. -/
def dropStale (lexer : Lexer) : Except Fault Lexer :=
  match lexer.rest.head? with
  | none => .ok lexer
  | some spot =>
    let isStale := fun (candidate : KeyCandidate) =>
      candidate.line ≠ spot.line || 1024 < spot.offset - candidate.offset
    if lexer.candidates.any fun (_, candidate) => isStale candidate && candidate.required then
      .error .keyWithoutColon
    else .ok { lexer with candidates := lexer.candidates.filter fun (_, c) => !isStale c }

/-- Forgets the candidate inside the brackets that are open, which must not be required. -/
def dropCandidate (lexer : Lexer) : Except Fault Lexer :=
  match lexer.candidates.lookup lexer.depth with
  | none => .ok lexer
  | some candidate =>
    if candidate.required then .error .keyWithoutColon
    else .ok { lexer with candidates := lexer.candidates.filter (·.1 ≠ lexer.depth) }

/-- What comes next may be a key. -/
def markCandidate (lexer : Lexer) : Except Fault Lexer :=
  match lexer.keyAllowed, lexer.rest.head? with
  | true, some spot => do
    let required := lexer.depth = 0 && lexer.indent = spot.column
    let lexer ← lexer.dropCandidate
    let candidate := ⟨lexer.count, required, spot.line, spot.column, spot.offset⟩
    .ok { lexer.add (.keyPlace []) with
      candidates := (lexer.depth, candidate) :: lexer.candidates }
  | _, _ => .ok lexer

/-- Ends block collections that are indented deeper than a column. -/
def unwind (fuel : Nat) (column : Int) (lexer : Lexer) : Lexer :=
  match fuel with
  | 0 => lexer
  | fuel + 1 =>
    if lexer.depth = 0 && column < lexer.indent then
      unwind fuel column
        { lexer.push .blockEnd with indent := lexer.outer.headD (-1), outer := lexer.outer.tail }
    else lexer

/-- Ends block collections that are indented deeper than a column. -/
def unwindTo (lexer : Lexer) (column : Int) : Lexer := lexer.unwind (lexer.outer.length + 1) column

/-- A collection starts at a column that is deeper than the innermost one. -/
def opens (lexer : Lexer) (column : Nat) : Bool := lexer.indent < column

/-- The lexer inside a block collection at a column. -/
def enter (lexer : Lexer) (column : Nat) : Lexer :=
  { lexer with indent := column, outer := lexer.indent :: lexer.outer }

/-- Enters a block collection at the front if one starts here. -/
def enterHere (lexer : Lexer) (mark : Lexeme) : Lexer :=
  if lexer.opens lexer.here then (lexer.enter lexer.here).push mark else lexer

/-- What follows blanks, comments and line breaks. Outside of brackets a new line allows keys. -/
def skipBlanks (lexer : Lexer) : Lexer :=
  let (broken, rest) := dropBlanks false false lexer.rest
  { lexer with rest, keyAllowed := lexer.keyAllowed || (broken && lexer.depth = 0) }

/-- The end of the text. -/
def streamEnd (lexer : Lexer) : Except Fault Lexer := do
  let lexer ← (lexer.unwindTo (-1)).dropCandidate
  .ok (lexer.push .streamEnd)

/-- A mark between documents. -/
def documentMark (lexer : Lexer) (mark : Lexeme) : Except Fault Lexer := do
  let lexer ← (lexer.unwindTo (-1)).dropCandidate
  .ok ({ lexer with keyAllowed := false }.take 3 mark)

/-- An opening bracket. -/
def openBracket (lexer : Lexer) (mark : Lexeme) : Except Fault Lexer := do
  let lexer ← lexer.markCandidate
  .ok ({ lexer with depth := lexer.depth + 1, keyAllowed := true }.take 1 mark)

/-- A closing bracket. -/
def closeBracket (lexer : Lexer) (mark : Lexeme) : Except Fault Lexer := do
  let lexer ← lexer.dropCandidate
  -- More brackets may close than were open, which is found when the pieces are put together.
  if lexer.depth = 0 then .error .badStructure
  else .ok ({ lexer with depth := lexer.depth - 1, keyAllowed := false }.take 1 mark)

/-- A comma between brackets. -/
def comma (lexer : Lexer) : Except Fault Lexer := do
  let lexer ← lexer.dropCandidate
  .ok ({ lexer with keyAllowed := true }.take 1 .flowEntry)

/-- A hyphen before an item. -/
def hyphen (lexer : Lexer) : Except Fault Lexer := do
  if lexer.depth = 0 ∧ ¬lexer.keyAllowed then .error .misplaced
  let lexer := if lexer.depth = 0 then lexer.enterHere .blockSequenceStart else lexer
  let lexer ← lexer.dropCandidate
  .ok ({ lexer with keyAllowed := true }.take 1 .blockEntry)

/-- A question mark before a key. -/
def questionMark (lexer : Lexer) : Except Fault Lexer := do
  if lexer.depth = 0 ∧ ¬lexer.keyAllowed then .error .misplaced
  let lexer := if lexer.depth = 0 then lexer.enterHere .blockMappingStart else lexer
  let lexer ← lexer.dropCandidate
  .ok ({ lexer with keyAllowed := lexer.depth = 0 }.take 1 .key)

/-- A colon before a value. A candidate before it turns out to be its key. -/
def colon (lexer : Lexer) : Except Fault Lexer :=
  match lexer.candidates.lookup lexer.depth with
  | some candidate =>
    let opens := lexer.depth = 0 && lexer.opens candidate.column
    let marks := if opens then [.blockMappingStart, .key] else [.key]
    let lexer := if opens then lexer.enter candidate.column else lexer
    .ok ({ lexer with
      candidates := lexer.candidates.filter (·.1 ≠ lexer.depth)
      pieces := lexer.pieces.set (lexer.count - 1 - candidate.piece) (.keyPlace marks)
      keyAllowed := false }.take 1 .value)
  | none => do
    if lexer.depth = 0 ∧ ¬lexer.keyAllowed then .error .misplaced
    let lexer := if lexer.depth = 0 then lexer.enterHere .blockMappingStart else lexer
    .ok ({ lexer with keyAllowed := lexer.depth = 0 }.take 1 .value)

/-- The name of an anchor or alias. -/
def anchorName (lexer : Lexer) (lexeme : String → Lexeme) : Except Fault Lexer := do
  let lexer ← lexer.markCandidate
  let (name, rest) := spanChars isNameChar (lexer.rest.drop 1)
  let next := front rest
  if name.isEmpty || !(isGap next || "?:,]\x7d%@\x60".toList.contains next) then .error .badName
  else .ok { (lexer.push (lexeme (String.ofList name))) with rest, keyAllowed := false }

/-- A tag. -/
def tag (lexer : Lexer) : Except Fault Lexer := do
  let lexer ← lexer.markCandidate
  match tagName? lexer.rest with
  | none => .error .badName
  | some (name, rest) => .ok { (lexer.push (.tag name)) with rest, keyAllowed := false }

/-- A directive. -/
def directive (lexer : Lexer) : Except Fault Lexer := do
  let lexer ← (lexer.unwindTo (-1)).dropCandidate
  let (lexeme, rest) ← directiveLexeme lexer.rest
  .ok { (lexer.push lexeme) with rest, keyAllowed := false }

/-- A block of text. -/
def block (lexer : Lexer) : Except Fault Lexer := do
  let lexer ← lexer.dropCandidate
  let (text, rest) ← blockScalar lexer.size lexer.indent lexer.rest
  .ok { (lexer.push (.scalar false text)) with rest, keyAllowed := true }

/-- A scalar in quotes. -/
def quoted (lexer : Lexer) : Except Fault Lexer := do
  let lexer ← lexer.markCandidate
  let (text, rest) ← quotedScalar lexer.size lexer.rest
  .ok { (lexer.push (.scalar false text)) with rest, keyAllowed := false }

/-- A plain scalar. -/
def plain (lexer : Lexer) : Except Fault Lexer := do
  let lexer ← lexer.markCandidate
  let scalar := plainScalar lexer.size (lexer.depth ≠ 0) lexer.indent lexer.rest
  .ok { (lexer.push (.scalar true (String.ofList scalar.chars))) with
    rest := scalar.rest, keyAllowed := scalar.broken }

/-- Cuts off one more piece of the document, or its end. -/
def step (lexer : Lexer) : Except Fault Lexer := do
  let lexer ← lexer.skipBlanks.dropStale
  let lexer := lexer.unwindTo lexer.here
  let c := front lexer.rest
  let inFlow := lexer.depth ≠ 0
  -- Between brackets a sign counts by itself, elsewhere only before a gap.
  let isSign := inFlow || isGap (peek lexer.rest 1)
  let atMark := lexer.here = 0 && atDocumentMark lexer.rest
  if c = endMark then lexer.streamEnd
  else if c = '%' ∧ lexer.here = 0 then lexer.directive
  else if c = '-' ∧ atMark then lexer.documentMark .documentStart
  else if c = '.' ∧ atMark then lexer.documentMark .documentEnd
  else if c = '[' then lexer.openBracket .sequenceStart
  else if c = Char.ofNat 0x7b then lexer.openBracket .mappingStart
  else if c = ']' then lexer.closeBracket .sequenceEnd
  else if c = Char.ofNat 0x7d then lexer.closeBracket .mappingEnd
  else if c = ',' then lexer.comma
  else if c = '-' ∧ isGap (peek lexer.rest 1) then lexer.hyphen
  else if c = '?' ∧ isSign then lexer.questionMark
  else if c = ':' ∧ isSign then lexer.colon
  else if c = '*' then lexer.anchorName .alias
  else if c = '&' then lexer.anchorName .anchor
  else if c = '!' then lexer.tag
  else if (c = '|' ∨ c = '>') ∧ ¬inFlow then lexer.block
  else if c = '\'' ∨ c = '"' then lexer.quoted
  else if startsPlain inFlow lexer.rest then lexer.plain
  else .error .strayCharacter

/-- The lexemes among some pieces, of which the last one is first. Places that turned out to be no
keys hold none. -/
def lexemesOf (pieces : List Piece) : List Lexeme :=
  pieces.reverse.flatMap fun
    | .lexeme lexeme => [lexeme]
    | .keyPlace marks => marks

/-- The lexemes before the first place that may still turn out to be a key. -/
def settled (lexer : Lexer) : List Lexeme :=
  let places := lexer.candidates.map fun (_, candidate) => candidate.piece
  lexemesOf (lexer.pieces.drop (lexer.count - places.foldl min lexer.count))

/-- The lexemes that stand before a fault, and the fault. -/
def stopped (lexer : Lexer) (fault : Fault) : List Lexeme × Option Fault :=
  match lexer.dropStale with
  | .ok lexer => (lexer.settled, some fault)
  | .error earlier => (lexer.settled, some earlier)

/-- Cuts pieces off until the end of the text or a fault. -/
def run (fuel : Nat) (lexer : Lexer) : List Lexeme × Option Fault :=
  match fuel with
  | 0 => lexer.stopped .badStructure
  | fuel + 1 =>
    match lexer.step with
    | .error fault => lexer.stopped fault
    | .ok next =>
      match next.pieces with
      | .lexeme .streamEnd :: _ => (lexemesOf next.pieces, none)
      | _ => next.run fuel

end Lexer

/-- The lexemes of a text up to its end or the first fault, and that fault. What stands before a
fault is known without looking at it, so it is the fault of the whole only if nothing else is. -/
def lexemes (text : String) : List Lexeme × Option Fault :=
  if text.toList.all isAllowed then
    let rest := spots text
    -- A byte order mark may stand before a document.
    let lexer := Lexer.start (if (front rest).toNat = 0xfeff then rest.drop 1 else rest)
    -- Every piece but the last takes a character.
    lexer.run (lexer.size + 1)
  else ([], some .forbiddenCharacter)

end LocoSounds.Yaml
