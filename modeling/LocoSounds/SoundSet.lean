import LocoSounds.Sound
import LocoSounds.Text.Quoted

/-! The sounds selected for one car. -/

namespace LocoSounds

/-- Slots with the sounds that fill them, in the order in which they were first filled. -/
structure SoundSet where
  entries : List (Slot × Sound)
  deriving DecidableEq

namespace SoundSet

/-- No slot is filled. -/
def empty : SoundSet := ⟨[]⟩

/-- The sound in a slot. -/
def get? (set : SoundSet) (slot : Slot) : Option Sound := set.entries.lookup slot

/-- A slot is filled. -/
def contains (set : SoundSet) (slot : Slot) : Bool := set.entries.any (·.1 = slot)

/-- A slot that is filled again keeps its place and takes the new sound. -/
def insert (set : SoundSet) (slot : Slot) (sound : Sound) : SoundSet :=
  if set.contains slot then
    ⟨set.entries.map fun (filled, old) => if filled = slot then (filled, sound) else (filled, old)⟩
  else ⟨set.entries ++ [(slot, sound)]⟩

/-- The filled slots, in order. -/
def slots (set : SoundSet) : List Slot := set.entries.map (·.1)

/-- The filled slots with the names of their sounds. -/
def names (set : SoundSet) : List (Slot × String) :=
  set.entries.map fun (slot, sound) => (slot, sound.name)

/-- Slots with the names of their sounds, as a mapping is written. -/
def namesText (names : List (Slot × String)) : String :=
  "\x7b" ++ ", ".intercalate (names.map fun (slot, name) => quoted slot.name ++ ": " ++ quoted name)
    ++ "\x7d"

/-- The written form of a sound set. -/
def text (set : SoundSet) : String := "SoundSet(" ++ namesText set.names ++ ")"

end SoundSet

/-- Puts a sound into its slot. -/
def Sound.apply (sound : Sound) (set : SoundSet) : SoundSet := set.insert sound.slot sound

end LocoSounds
