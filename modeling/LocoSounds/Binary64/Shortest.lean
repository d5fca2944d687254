import LocoSounds.Binary64.Arithmetic

/-! Decimal digits of a magnitude: the fewest that read back, or a fixed count of them. -/

namespace LocoSounds

/-- A decimal: digits as a whole number, scaled by a power of ten. -/
structure Decimal where
  digits : Nat
  exponent : Int
  deriving DecidableEq

namespace Binary64

/-- The exponent of the leading decimal digit of a positive quotient. -/
def leadingExponent (num den : Nat) : Int :=
  -- Below one, the zeros behind the point are counted in the reciprocal.
  if den ≤ num then (decimalLength (num / den) : Int) - 1
  else -(decimalLength ((den - 1) / num) : Int)

/-- A quotient counted in steps of a power of ten, as numerator and denominator. -/
def inSteps (num den : Nat) (exponent : Int) : Nat × Nat :=
  if 0 ≤ exponent then (num, den * Nat.pow 10 exponent.toNat)
  else (num * Nat.pow 10 (-exponent).toNat, den)

/-- The decimal reads back as the given rank: it lies no farther than halfway to either neighbour. -/
def readsBack (rank : Nat) (decimal : Decimal) : Bool :=
  -- Halves of the step to a neighbour are whole when counted in half units.
  let (low, scale) := inSteps (units (rank - 1) + units rank) (2 * unitsInOne) decimal.exponent
  let high := (inSteps (units rank + units (rank + 1)) (2 * unitsInOne) decimal.exponent).1
  let place := decimal.digits * scale
  -- The halfway points belong to the even rank.
  if rank % 2 = 0 then low ≤ place && place ≤ high else low < place && place < high

/-- The decimal of the given number of digits that reads back, the nearer of two, a half to even digits. -/
def digitsOfLength? (rank count : Nat) : Option Decimal :=
  let exponent := leadingExponent (units rank) unitsInOne - count + 1
  let (num, den) := inSteps (units rank) unitsInOne exponent
  -- Of all decimals of that length only the two beside the number can read back.
  let below : Decimal := ⟨num / den, exponent⟩
  let above : Decimal := ⟨num / den + 1, exponent⟩
  let nearer : Decimal := ⟨roundHalfEven num den, exponent⟩
  if readsBack rank below && readsBack rank above then some nearer
  else if readsBack rank below then some below
  else if readsBack rank above then some above
  else none

/-- The decimal of fewest digits that reads back as the magnitude of the given positive finite rank. -/
def shortest (rank : Nat) : Decimal :=
  -- Seventeen digits always read back.
  ((List.range 17).findSome? fun i => digitsOfLength? rank (i + 1)).getD ⟨0, 0⟩

/-- The magnitude of a positive finite rank rounded to a count of decimal digits, a half to even. -/
def rounded (rank count : Nat) : Decimal :=
  let exponent := leadingExponent (units rank) unitsInOne - count + 1
  let (num, den) := inSteps (units rank) unitsInOne exponent
  ⟨roundHalfEven num den, exponent⟩

end Binary64

end LocoSounds
