import LocoSounds.Yaml.Spot
import LocoSounds.Text.Codes

/-! Tags as they are written before nodes. -/

namespace LocoSounds.Yaml

/-- A tag as written: a handle, which stands for the start of the tag, and the rest of it. -/
structure TagName where
  handle : Option String
  suffix : String
  deriving DecidableEq

/-- The tag that only says that a scalar is to be read as a plain one. -/
def TagName.isBare (name : TagName) : Bool := name.handle.isNone && name.suffix = "!"

/-- Characters of the names of anchors and directives. -/
def isNameChar (c : Char) : Bool := c.isAlphanum || c = '-' || c = '_'

/-- Characters of the part of a tag that is no handle, those written by their codes aside. -/
def isTagChar (c : Char) : Bool :=
  c.isAlphanum || "-;/?:@&=+$,_.!~*'()[]".toList.contains c

/-- The bytes at the front that are written by their codes, and what follows them. -/
def codedBytes (fuel : Nat) (rest : List Spot) : Option (List UInt8 × List Spot) :=
  match fuel with
  | 0 => some ([], rest)
  | fuel + 1 =>
    if front rest ≠ '%' then some ([], rest)
    else do
      let byte ← hexNumber? [peek rest 1, peek rest 2]
      let (bytes, rest) ← codedBytes fuel (rest.drop 3)
      some (byte.toUInt8 :: bytes, rest)

/-- The characters at the front that belong to a tag, and what follows them. -/
def tagChars (fuel : Nat) (rest : List Spot) : Option (List Char × List Spot) :=
  match fuel with
  | 0 => some ([], rest)
  | fuel + 1 =>
    let (chars, rest) := spanChars isTagChar rest
    if front rest ≠ '%' then some (chars, rest)
    else do
      -- Bytes in a row are the characters that they encode together.
      let (bytes, rest) ← codedBytes fuel rest
      let coded ← String.fromUTF8? ⟨bytes.toArray⟩
      let (more, rest) ← tagChars fuel rest
      some (chars ++ coded.toList ++ more, rest)

/-- The part of a tag that is no handle, if there is one at the front, and what follows it. -/
def tagBody? (rest : List Spot) : Option (String × List Spot) := do
  let (chars, after) ← tagChars (rest.length + 1) rest
  if isTagChar (front rest) || front rest = '%' then some (String.ofList chars, after) else none

/-- The handle at the front, between exclamation marks or a single one, and what follows it. -/
def tagHandle? (rest : List Spot) : Option (String × List Spot) :=
  if front rest ≠ '!' then none
  else
    let (word, after) := spanChars isNameChar (rest.drop 1)
    if front after = '!' then some ("!" ++ String.ofList word ++ "!", after.drop 1)
    else if peek rest 1 = ' ' then some ("!", rest.drop 1)
    else none

/-- A line or a word ends here. -/
def endsWord (rest : List Spot) : Bool := isBreakOrEnd (front rest) || front rest = ' '

/-- The tag at the front, and what follows it. -/
def tagName? (rest : List Spot) : Option (TagName × List Spot) := do
  let (name, rest) ← match peek rest 1 with
    | '<' => do
      let (suffix, rest) ← tagBody? (rest.drop 2)
      if front rest = '>' then some (TagName.mk none suffix, rest.drop 1) else none
    | next =>
      if isGap next then some (TagName.mk none "!", rest.drop 1)
      else do
        let (word, _) := spanChars (fun c => !(isBreakOrEnd c || c = ' ')) (rest.drop 1)
        -- A tag with a second exclamation mark has a handle before it.
        let (handle, body) ← if word.contains '!' then tagHandle? rest else some ("!", rest.drop 1)
        let (suffix, rest) ← tagBody? body
        some (TagName.mk (some handle) suffix, rest)
  if endsWord rest then some (name, rest) else none

end LocoSounds.Yaml
