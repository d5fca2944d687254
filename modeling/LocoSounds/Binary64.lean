/-! Double-precision numbers kept exactly, each named by its sign and the rank of its magnitude. -/

namespace LocoSounds

namespace Binary64

/-- The number of magnitudes in a binade, `2 ^ 52`. -/
def binadeSize : Nat := 0x10000000000000

/-- The rank of infinity, one past the greatest finite magnitude. -/
def infinityRank : Nat := 2047 * binadeSize

end Binary64

/--
A double-precision number.
Magnitudes are ranked by size: zero has rank 0, the least positive number rank 1, infinity the last.
-/
inductive Binary64 where
  /-- The value that is no number. -/
  | nan
  /-- The number of the given sign and rank. -/
  | number (negative : Bool) (rank : Fin (Binary64.infinityRank + 1))
  deriving DecidableEq

namespace Binary64

/-- The number of a given sign whose rank is the given one, or infinity where there is no such rank. -/
def ofRank (negative : Bool) (rank : Nat) : Binary64 :=
  .number negative ⟨min rank infinityRank, by omega⟩

/-- Zero. -/
def zero : Binary64 := ofRank false 0

/-- One. -/
def one : Binary64 := ofRank false (1023 * binadeSize)

/-- Infinity of the given sign. -/
def infinity (negative : Bool) : Binary64 := ofRank negative infinityRank

instance : Inhabited Binary64 := ⟨zero⟩

instance : Zero Binary64 := ⟨zero⟩

instance : One Binary64 := ⟨one⟩

/-- Neither infinite nor `nan`. -/
def isFinite : Binary64 → Bool
  | .nan => false
  | .number _ rank => rank.val != infinityRank

/-- An integer of the given sign and size. -/
def signed (negative : Bool) (size : Nat) : Int :=
  if negative then -(size : Int) else size

/-- Order is by signed rank, so both zeros are equal, and `nan` is beside no number. -/
protected def le : Binary64 → Binary64 → Prop
  | .number s a, .number t b => signed s a ≤ signed t b
  | _, _ => False

/-- Strict order is by signed rank. -/
protected def lt : Binary64 → Binary64 → Prop
  | .number s a, .number t b => signed s a < signed t b
  | _, _ => False

instance : LE Binary64 := ⟨Binary64.le⟩

instance : LT Binary64 := ⟨Binary64.lt⟩

instance (a b : Binary64) : Decidable (a ≤ b) :=
  match a, b with
  | .number s a, .number t b => inferInstanceAs (Decidable (signed s a ≤ signed t b))
  | .nan, _ => isFalse id
  | .number _ _, .nan => isFalse id

instance (a b : Binary64) : Decidable (a < b) :=
  match a, b with
  | .number s a, .number t b => inferInstanceAs (Decidable (signed s a < signed t b))
  | .nan, _ => isFalse id
  | .number _ _, .nan => isFalse id

/-- The magnitude of a rank, counted in least positive numbers. -/
def units (rank : Nat) : Nat :=
  -- Below the second binade every rank is its own magnitude, and above it each binade doubles the step.
  if rank < 2 * binadeSize then rank
  else (binadeSize + rank % binadeSize) * Nat.pow 2 (rank / binadeSize - 1)

/-- The number of least positive numbers in one. -/
def unitsInOne : Nat := Nat.pow 2 1074

/-- The exact size of a finite number, counted in least positive numbers. -/
def signedUnits? : Binary64 → Option Int
  | .nan => none
  | .number negative rank =>
    if rank.val = infinityRank then none else some (signed negative (units rank))

end Binary64

end LocoSounds
