import LocoSounds.Draw.Twister
import LocoSounds.Text.Quoted

/-! Draws that a seed determines, counted. -/

namespace LocoSounds

/-- A stream of draws with the seed it started from and the number of draws taken. -/
structure SeededDraws where
  seed : Int
  name : String
  count : Nat
  twister : Twister
  deriving DecidableEq

namespace SeededDraws

/-- The stream of a seed, before its first draw. -/
def ofSeed (seed : Int) (name : String) : SeededDraws :=
  ⟨seed, name, 0, .ofSeed seed⟩

/-- The next number of the stream. -/
def draw (draws : SeededDraws) : Binary64 × SeededDraws :=
  let (number, twister) := draws.twister.draw
  (number, { draws with count := draws.count + 1, twister })

/-- A number of draws, in order. -/
def take (draws : SeededDraws) : Nat → List Binary64 × SeededDraws
  | 0 => ([], draws)
  | n + 1 =>
    let (number, draws) := draws.draw
    let (numbers, draws) := draws.take n
    (number :: numbers, draws)

/-- The stream from its start, of the same seed unless another one is given. -/
def reset (draws : SeededDraws) (seed : Option Int) : SeededDraws :=
  ofSeed (seed.getD draws.seed) draws.name

/-- The written form, which a seed of too many digits does not let there be. -/
def text? (draws : SeededDraws) : Option String := do
  return "SeededRNG(seed=" ++ (← integerText? draws.seed) ++ ", name=" ++ quoted draws.name
    ++ ", calls=" ++ toString draws.count ++ ")"

instance : DrawSource SeededDraws where
  draw draws :=
    let (number, draws) := draws.draw
    (.number number, draws)

end SeededDraws

end LocoSounds
