import LocoSounds.Binary64.Arithmetic
import LocoSounds.Draw

/-! The Mersenne Twister MT19937, with draws of 53 bits. -/

namespace LocoSounds

/-- The 624 words of the generator and the position of the next one to give out. -/
structure Twister where
  words : Array UInt32
  position : Nat
  deriving DecidableEq

namespace Twister

/-- The number of words. -/
def size : Nat := 624

/-- The word at a position. -/
def wordAt (words : Array UInt32) (position : Nat) : UInt32 := words.getD position 0

/-- A word with its high bits folded into its low ones. -/
def folded (word : UInt32) : UInt32 := word ^^^ (word >>> 30)

/-- The words that follow from a first one. -/
def expand (first : UInt32) : Array UInt32 :=
  (List.range (size - 1)).foldl
    (fun words i => words.push (1812433253 * folded (wordAt words i) + (i + 1).toUInt32)) #[first]

/-- The digits of a number to base `2 ^ 32`, least first. -/
def digits32 (n : Nat) : List UInt32 :=
  if small : n < 0x100000000 then [n.toUInt32] else n.toUInt32 :: digits32 (n / 0x100000000)
termination_by n
decreasing_by omega

/-- Words that are being mixed, with the position of the next one to change. -/
structure Mixing where
  words : Array UInt32
  position : Nat

/-- Changes the word at the position and goes on to the next, past the last to the second. -/
def Mixing.step (mixing : Mixing) (change : UInt32 → UInt32 → UInt32) : Mixing :=
  let before := folded (wordAt mixing.words (mixing.position - 1))
  let word := change (wordAt mixing.words mixing.position) before
  let words := mixing.words.setIfInBounds mixing.position word
  if mixing.position + 1 < size then ⟨words, mixing.position + 1⟩
  -- The last word is also the first.
  else ⟨words.setIfInBounds 0 word, 1⟩

/-- The generator that a key of words starts. -/
def ofKey (key : Array UInt32) : Twister :=
  -- First the key is mixed in, all of it at least once, over all of the words at least once.
  let mixed := (List.range (max size key.size)).foldl
    (fun (mixing : Mixing) i =>
      let j := i % key.size
      mixing.step fun word before => (word ^^^ (before * 1664525)) + wordAt key j + j.toUInt32)
    ⟨expand 19650218, 1⟩
  -- Then each word is spread over those that follow it.
  let mixed := (List.range (size - 1)).foldl
    (fun (mixing : Mixing) _ =>
      mixing.step fun word before => (word ^^^ (before * 1566083941)) - mixing.position.toUInt32)
    mixed
  -- A first word other than zero keeps the generator from being stuck.
  ⟨mixed.words.setIfInBounds 0 0x80000000, size⟩

/-- The generator of a seed. The sign of the seed does not matter. -/
def ofSeed (seed : Int) : Twister := ofKey (digits32 seed.natAbs).toArray

/-- The next 624 words. -/
def twist (words : Array UInt32) : Array UInt32 :=
  (List.range size).foldl
    (fun words i =>
      -- The high bit of a word is joined with the low bits of the next one.
      let joined := (wordAt words i &&& 0x80000000) ||| (wordAt words ((i + 1) % size) &&& 0x7fffffff)
      let shifted := (joined >>> 1) ^^^ (if joined &&& 1 = 0 then 0 else 0x9908b0df)
      words.setIfInBounds i (wordAt words ((i + 397) % size) ^^^ shifted))
    words

/-- A word as it is given out. -/
def temper (word : UInt32) : UInt32 :=
  let word := word ^^^ (word >>> 11)
  let word := word ^^^ ((word <<< 7) &&& 0x9d2c5680)
  let word := word ^^^ ((word <<< 15) &&& 0xefc60000)
  word ^^^ (word >>> 18)

/-- The next word. -/
def next (twister : Twister) : UInt32 × Twister :=
  if twister.position < size then
    (temper (wordAt twister.words twister.position), { twister with position := twister.position + 1 })
  else
    let words := twist twister.words
    (temper (wordAt words 0), ⟨words, 1⟩)

/-- The next number below one, a whole number of steps of `2 ^ -53`. -/
def draw (twister : Twister) : Binary64 × Twister :=
  let (high, twister) := twister.next
  let (low, twister) := twister.next
  -- 27 bits of the one word stand before 26 bits of the other.
  (.ofRatio ((high >>> 5).toNat * 0x4000000 + (low >>> 6).toNat) 0x20000000000000, twister)

instance : DrawSource Twister where
  draw twister :=
    let (number, twister) := twister.draw
    (.number number, twister)

end Twister

end LocoSounds
