import LocoSounds.Binary64.Arithmetic
import LocoSounds.Binary64.Text
import LocoSounds.Text.Numeral

/-! Sources of random draws. -/

namespace LocoSounds

/-- A number that was drawn. -/
inductive Drawn where
  | number (value : Binary64)
  /-- Only sources of given numbers draw whole ones, which are written as such. -/
  | whole (value : Int)
  deriving DecidableEq

namespace Drawn

/-- The number itself. -/
def value : Drawn → Binary64
  | .number value => value
  | .whole value => .ofInt value

/-- The written form, which an integer of too many digits does not have. -/
def text? : Drawn → Option String
  | .number value => some value.text
  | .whole value => integerText? value

end Drawn

/-- A type whose values draw numbers, each draw giving way to the value that draws the next. -/
class DrawSource (σ : Type) where
  draw : σ → Drawn × σ

end LocoSounds
