import LocoSounds.Binary64
import LocoSounds.Text.Lowercase

/-! Sounds and the slots of a locomotive that they fill. -/

namespace LocoSounds

/-- A slot of a locomotive for which sounds can be replaced. -/
inductive Slot where
  | hornHit
  | hornLoop
  | bell
  | compressor
  | engineStartup
  | engineLoop
  | engineShutdown
  | tractionMotors
  deriving DecidableEq

/-- The clips for one slot and how to play them. -/
structure Sound where
  name : String
  slot : Slot
  filenames : List String
  /-- Playback pitch, as a factor. -/
  pitch : Option Binary64
  /-- The lowest pitch of a looped clip. -/
  minPitch : Option Binary64
  /-- The highest pitch of a looped clip. -/
  maxPitch : Option Binary64
  /-- The throttle at which the clip fades in. -/
  fadeStart : Option Binary64
  /-- The range of throttle over which it fades in. -/
  fadeWidth : Option Binary64
  deriving DecidableEq

namespace Slot

/-- The slot's name in documents. -/
def name : Slot → String
  | .hornHit => "HornHit"
  | .hornLoop => "HornLoop"
  | .bell => "Bell"
  | .compressor => "Compressor"
  | .engineStartup => "EngineStartup"
  | .engineLoop => "EngineLoop"
  | .engineShutdown => "EngineShutdown"
  | .tractionMotors => "TractionMotors"

/-- Every slot. -/
def all : List Slot :=
  [.hornHit, .hornLoop, .bell, .compressor, .engineStartup, .engineLoop, .engineShutdown,
    .tractionMotors]

/-- The slot of a name, whatever the case of its letters. -/
def ofName? (name : String) : Option Slot :=
  all.find? fun slot => lowercase slot.name = lowercase name

/-- The slot of exactly this name. -/
def ofExactName? (name : String) : Option Slot :=
  all.find? (·.name = name)

end Slot

end LocoSounds
