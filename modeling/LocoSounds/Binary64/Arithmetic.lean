import LocoSounds.Binary64

/-! Arithmetic on double-precision numbers: the exact result, rounded once to the nearest number. -/

namespace LocoSounds

/-- The integer nearest to a quotient, a half going to the even neighbour. -/
def roundHalfEven (num den : Nat) : Nat :=
  let whole := num / den
  let rest := num % den
  if 2 * rest < den then whole
  else if den < 2 * rest then whole + 1
  -- The even one of the two neighbours is the whole part or the next number.
  else whole + whole % 2

namespace Binary64

/-- The rank of the magnitude nearest to a quotient of least positive numbers. -/
def rankOfUnits (num den : Nat) : Nat :=
  -- A magnitude of more than 53 binary digits is rounded in steps of `2 ^ shift`.
  let shift := (num / den).log2 - 52
  shift * binadeSize + roundHalfEven num (den * Nat.pow 2 shift)

/-- The number nearest to a quotient of least positive numbers, infinity where it is out of range. -/
def ofUnits (negative : Bool) (num den : Nat) : Binary64 :=
  ofRank negative (rankOfUnits num den)

/-- The number nearest to a quotient. -/
def ofRatio (num den : Nat) : Binary64 :=
  ofUnits false (num * unitsInOne) den

/-- The number nearest to an integer, infinity where it is out of range. -/
def ofInt (n : Int) : Binary64 :=
  ofUnits (n < 0) (n.natAbs * unitsInOne) 1

/-- The sum, rounded once. A zero sum is negative only where both terms are. -/
protected def add : Binary64 → Binary64 → Binary64
  | .number s a, .number t b =>
    if a.val = infinityRank then
      -- Infinities of opposite signs have no sum, and any other infinity stays.
      if b.val = infinityRank ∧ s ≠ t then .nan else .number s a
    else if b.val = infinityRank then .number t b
    else
      let sum := signed s (units a) + signed t (units b)
      if sum = 0 then ofRank (s && t) 0 else ofUnits (sum < 0) sum.natAbs 1
  | _, _ => .nan

/-- The product, rounded once. -/
protected def mul : Binary64 → Binary64 → Binary64
  | .number s a, .number t b =>
    if a.val = infinityRank ∨ b.val = infinityRank then
      -- Nothing times infinity is no number.
      if a.val = 0 ∨ b.val = 0 then .nan else infinity (s != t)
    else ofUnits (s != t) (units a * units b) unitsInOne
  | _, _ => .nan

/-- The quotient, rounded once. -/
protected def div : Binary64 → Binary64 → Binary64
  | .number s a, .number t b =>
    if a.val = infinityRank then
      if b.val = infinityRank then .nan else infinity (s != t)
    -- Past the infinite cases only a divisor of zero is left apart.
    else if b.val = infinityRank then ofRank (s != t) 0
    else if b.val = 0 then
      if a.val = 0 then .nan else infinity (s != t)
    else ofUnits (s != t) (units a * unitsInOne) (units b)
  | _, _ => .nan

/-- The number of the opposite sign. -/
protected def neg : Binary64 → Binary64
  | .nan => .nan
  | .number negative rank => .number (!negative) rank

instance : Add Binary64 := ⟨Binary64.add⟩

instance : Mul Binary64 := ⟨Binary64.mul⟩

instance : Div Binary64 := ⟨Binary64.div⟩

instance : Neg Binary64 := ⟨Binary64.neg⟩

/-- The integer that a number is equal to, if there is one. -/
def integer? (x : Binary64) : Option Int :=
  match x.signedUnits? with
  | some size => if size % unitsInOne = 0 then some (size / unitsInOne) else none
  | none => none

/-- The number of decimal digits of a natural number. -/
def decimalLength (n : Nat) : Nat := (Nat.toDigits 10 n).length

/-- The number nearest to `digits` times a power of ten, infinity where it is out of range. -/
def ofDecimal (negative : Bool) (digits : Nat) (exponent : Int) : Binary64 :=
  -- Magnitudes from `10 ^ 310` up are infinite and those below `10 ^ -330` are zero, so no huge power is formed.
  let height := exponent + decimalLength digits
  if digits = 0 ∨ height < -330 then ofRank negative 0
  else if 310 < height then infinity negative
  else if 0 ≤ exponent then ofUnits negative (digits * Nat.pow 10 exponent.toNat * unitsInOne) 1
  else ofUnits negative (digits * unitsInOne) (Nat.pow 10 (-exponent).toNat)

end Binary64

end LocoSounds
