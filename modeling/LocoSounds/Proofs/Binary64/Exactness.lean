import LocoSounds.Proofs.Binary64.Rounding

/-! Results that rounding leaves as they are: sums of small whole numbers, their quotients, and a
number divided by itself. Beside them stands the order of numbers, which is that of their ranks. -/

namespace LocoSounds

/-- A multiple of the denominator is rounded to its factor. -/
theorem roundHalfEven_mul_self (num : Nat) {den : Nat} (positive : 0 < den) :
    roundHalfEven (num * den) den = num := by
  -- The quotient is whole and nothing remains, which is below any half.
  have whole : num * den / den = num := Nat.mul_div_cancel num positive
  have rest : num * den % den = 0 := Nat.mul_mod_left num den
  simp only [roundHalfEven, whole, rest, Nat.mul_zero, positive, if_true]

/-- Rounding depends on nothing but the quotient. -/
theorem roundHalfEven_mul_right (num den : Nat) {factor : Nat} (positive : 0 < factor) :
    roundHalfEven (num * factor) (den * factor) = roundHalfEven num den := by
  -- A common factor keeps the whole part, and which side of a half the remainder lies on.
  have low : 2 * (num % den * factor) < den * factor ↔ 2 * (num % den) < den := by
    rw [← Nat.mul_assoc, Nat.mul_lt_mul_right positive]
  have high : den * factor < 2 * (num % den * factor) ↔ den < 2 * (num % den) := by
    rw [← Nat.mul_assoc, Nat.mul_lt_mul_right positive]
  simp only [roundHalfEven, Nat.mul_div_mul_right _ _ positive, Nat.mul_mod_mul_right, low, high]

namespace Binary64

/-- The rank of a quotient depends on nothing but the quotient. -/
theorem rankOfUnits_mul_right (num den : Nat) {factor : Nat} (positive : 0 < factor) :
    rankOfUnits (num * factor) (den * factor) = rankOfUnits num den := by
  -- The step that is rounded to is the same, and so is what is rounded.
  simp only [rankOfUnits, Nat.mul_div_mul_right _ _ positive]
  rw [Nat.mul_right_comm den factor, roundHalfEven_mul_right _ _ positive]

/-- Every rank is made of a shift and of the digits that are shifted, which are 53 unless the shift
is none. -/
theorem exists_shift (rank : Nat) : ∃ shift digits, rank = shift * binadeSize + digits ∧
    (shift = 0 ∨ binadeSize ≤ digits) ∧ digits < 2 * binadeSize := by
  -- The rank is split by its binade; without one, the digits are the whole rank.
  have rest := Nat.div_add_mod rank binadeSize
  have below : rank % binadeSize < binadeSize := Nat.mod_lt _ (by decide)
  rcases Nat.eq_zero_or_pos (rank / binadeSize) with none | some
  · exact ⟨0, rank, by omega, .inl rfl, by rw [none] at rest; omega⟩
  · -- The first binade with a leading digit has the same step as the magnitudes below it.
    refine ⟨rank / binadeSize - 1, binadeSize + rank % binadeSize, ?_, .inr (by omega), by omega⟩
    have binades : (rank / binadeSize - 1 + 1) * binadeSize = binadeSize * (rank / binadeSize) := by
      rw [Nat.sub_add_cancel some, Nat.mul_comm]
    rw [Nat.add_mul, Nat.one_mul] at binades
    omega

/-- The magnitude of a rank is that of its digits, shifted. -/
theorem units_of_shift {shift digits : Nat} (normal : shift = 0 ∨ binadeSize ≤ digits)
    (short : digits < 2 * binadeSize) :
    units (shift * binadeSize + digits) = digits * 2 ^ shift := by
  -- Digits below the least leading one are not shifted, and the others lie in a binade above it.
  rcases Nat.lt_or_ge digits binadeSize with low | high
  · obtain rfl : shift = 0 := by omega
    rw [units_eq, if_pos (by omega)]
    omega
  · -- The leading digit counts as one more binade.
    obtain ⟨tail, rfl⟩ := Nat.exists_eq_add_of_le high
    have split : shift * binadeSize + (binadeSize + tail) = tail + binadeSize * (shift + 1) := by
      rw [Nat.mul_succ, Nat.mul_comm]
      omega
    have below : tail < binadeSize := by omega
    rw [units_eq, if_neg (by omega), split, Nat.add_mul_mod_self_left, Nat.mod_eq_of_lt below,
      Nat.add_mul_div_left _ _ (by decide), Nat.div_eq_of_lt below, Nat.zero_add,
      Nat.add_sub_cancel]

/-- Digits that are shifted are rounded to the rank that they make. -/
theorem rankOfUnits_of_shift {shift digits : Nat} (normal : shift = 0 ∨ binadeSize ≤ digits)
    (short : digits < 2 * binadeSize) :
    rankOfUnits (digits * 2 ^ shift) 1 = shift * binadeSize + digits := by
  -- The shift is read off from the length of the product, and with it nothing is cut off.
  have shifted : (digits * 2 ^ shift / 1).log2 - 52 = shift := by
    rw [Nat.div_one]
    rcases normal with rfl | high
    · have bound : (digits * 2 ^ 0).log2 < 53 := by
        rcases Nat.eq_zero_or_pos digits with rfl | some
        · decide
        · exact (Nat.log2_lt (by omega)).mpr (by simp only [binadeSize] at short; omega)
      omega
    · -- The leading digit of 53 stands 52 places above the last one.
      have nonzero : digits * 2 ^ shift ≠ 0 := by
        have some : 0 < digits := Nat.lt_of_lt_of_le (by decide) high
        exact Nat.ne_of_gt (Nat.mul_pos some (Nat.two_pow_pos shift))
      have leading : (digits * 2 ^ shift).log2 = 52 + shift := by
        rw [Nat.log2_eq_iff nonzero, Nat.pow_add, Nat.add_right_comm, Nat.pow_add]
        exact ⟨Nat.mul_le_mul_right _ high, Nat.mul_lt_mul_of_pos_right short (Nat.two_pow_pos _)⟩
      omega
  simp only [rankOfUnits, shifted, Nat.pow_eq, Nat.one_mul]
  rw [roundHalfEven_mul_self _ (Nat.two_pow_pos shift)]

/-- A magnitude that has a rank is rounded to that rank. -/
theorem rankOfUnits_units (rank : Nat) : rankOfUnits (units rank) 1 = rank := by
  -- The rank is taken apart, and its digits are shifted and put together again.
  obtain ⟨shift, digits, rfl, normal, short⟩ := exists_shift rank
  rw [units_of_shift normal short, rankOfUnits_of_shift normal short]

/-- A quotient equal to a magnitude that has a rank is rounded to that rank. -/
theorem rankOfUnits_units_mul (rank : Nat) {den : Nat} (positive : 0 < den) :
    rankOfUnits (units rank * den) den = rank := by
  -- The denominator is a common factor of both sides, so it may as well be one.
  have same := rankOfUnits_mul_right (units rank) 1 positive
  rwa [Nat.one_mul, rankOfUnits_units] at same

/-- Only zero has no magnitude. -/
theorem units_pos {rank : Nat} (positive : 0 < rank) : 0 < units rank :=
  Nat.lt_of_lt_of_le (by decide) (units_mono positive)

/-- The rank of one is that of its magnitude. -/
theorem units_one : units (1023 * binadeSize) = unitsInOne := by
  -- Both are powers of two that the kernel computes.
  decide +kernel

/-- The digits of one are shifted by 1022. -/
theorem binadeSize_mul_pow {shift : Nat} (is : shift = 1022) :
    binadeSize * 2 ^ shift = unitsInOne := by
  -- Shifted by 1022, the least leading digit is the magnitude of the rank of one.
  have rank : shift * binadeSize + binadeSize = 1023 * binadeSize := by
    rw [is, ← Nat.succ_mul]
  rw [← units_of_shift (.inr (Nat.le_refl _)) (by decide), rank, units_one]

/-- There is a least positive number in one. -/
theorem unitsInOne_pos : 0 < unitsInOne := by
  -- The rank of one is not zero, and only the rank zero has the magnitude zero.
  rw [← units_one]
  exact units_pos (by decide)

/-- Numbers of plus sign are in the order of their ranks, up to the rank of infinity. -/
theorem ofRank_le_iff {rank other : Nat} :
    ofRank false rank ≤ ofRank false other ↔ min rank infinityRank ≤ min other infinityRank :=
  Int.ofNat_le

/-- Of two ranks the greater is that of no smaller number. -/
theorem ofRank_mono {rank other : Nat} (le : rank ≤ other) :
    ofRank false rank ≤ ofRank false other :=
  ofRank_le_iff.mpr (by omega)

instance : IsTrans Binary64 (· ≤ ·) where
  trans
    | .number _ _, .number _ _, .number _ _, first, second => Int.le_trans first second

/-- Of two numbers the one that is not at or below the other is above it. -/
theorem not_le_iff {x y : Binary64} (number : x ≠ .nan) (another : y ≠ .nan) :
    ¬ x ≤ y ↔ y < x := by
  -- Numbers are compared by their signed ranks, which are integers.
  cases x with
  | nan => exact absurd rfl number
  | number s a =>
    cases y with
    | nan => exact absurd rfl another
    | number t b => exact Int.not_le

/-- Of two numbers the lesser is at or below the other. -/
theorem le_of_lt {x y : Binary64} (lt : x < y) : x ≤ y :=
  match x, y with
  | .number _ _, .number _ _ => Int.le_of_lt lt

/-- A number that has a rank is a number. -/
theorem ofRank_ne_nan (negative : Bool) (rank : Nat) : ofRank negative rank ≠ .nan := by
  -- A rank is made a number, and numbers differ from what is not one.
  intro same
  cases same

/-- What is at or below something is a number. -/
theorem ne_nan_of_ge {x y : Binary64} (le : x ≤ y) : x ≠ .nan := by
  -- What is no number is at or below nothing.
  rintro rfl
  exact le

/-- A finite number above zero has a rank of its own, above zero and below infinity. -/
theorem exists_rank_of_positive {x : Binary64} (finite : x.isFinite) (positive : .zero < x) :
    ∃ rank, 0 < rank ∧ rank < infinityRank ∧ x = ofRank false rank := by
  -- A minus sign would put it at or below zero, and the greatest rank would be infinite.
  cases x with
  | nan => cases finite
  | number negative rank =>
    have above : (0 : Int) < signed negative rank := positive
    cases negative with
    | true =>
      simp only [signed, if_true] at above
      omega
    | false =>
      simp only [signed, Bool.false_eq_true, if_false] at above
      simp only [isFinite, bne_iff_ne] at finite
      have below : rank.val ≤ infinityRank := Nat.le_of_lt_succ rank.isLt
      refine ⟨rank, by omega, by omega, ?_⟩
      simp only [ofRank, Nat.min_eq_left below]

/-- A number of plus sign is finite where its rank is below that of infinity. -/
theorem isFinite_ofRank_iff {rank : Nat} :
    (ofRank false rank).isFinite ↔ rank < infinityRank := by
  -- Ranks are cut off at infinity, so only those below it are kept apart from it.
  simp only [ofRank, isFinite, bne_iff_ne]
  omega

/-- A number of plus sign is above zero where its rank is. -/
theorem zero_lt_ofRank_iff {rank : Nat} : .zero < ofRank false rank ↔ 0 < rank := by
  -- To cut a rank off at infinity makes no positive one zero.
  have below : .zero < ofRank false rank ↔ 0 < min rank infinityRank := Int.ofNat_lt
  have some : 0 < infinityRank := by decide
  rw [below]
  omega

/-- The quotient of two finite numbers of plus sign is their exact quotient, rounded once. -/
theorem ofRank_div {rank other : Nat} (finite : rank < infinityRank) (positive : 0 < other)
    (otherFinite : other < infinityRank) :
    ofRank false rank / ofRank false other =
      ofRank false (rankOfUnits (units rank * unitsInOne) (units other)) := by
  -- Neither is infinite and the divisor is not zero, so the quotient is rounded from magnitudes.
  change Binary64.div (ofRank false rank) (ofRank false other) = _
  have here : min rank infinityRank = rank := Nat.min_eq_left (Nat.le_of_lt finite)
  have there : min other infinityRank = other := Nat.min_eq_left (Nat.le_of_lt otherFinite)
  simp only [ofRank, Binary64.div, ofUnits, here, there, Nat.ne_of_lt finite,
    Nat.ne_of_lt otherFinite, Nat.ne_of_gt positive, if_false, bne_self_eq_false]

/-- Of two finite numbers of plus sign, the greater gives no smaller quotient. -/
theorem ofRank_div_mono {rank other den : Nat} (le : rank ≤ other) (finite : other < infinityRank)
    (positive : 0 < den) (denFinite : den < infinityRank) :
    ofRank false rank / ofRank false den ≤ ofRank false other / ofRank false den := by
  -- Magnitudes are in the order of their ranks, and so are the quotients before rounding.
  rw [ofRank_div (by omega) positive denFinite, ofRank_div finite positive denFinite]
  exact ofRank_mono (rankOfUnits_mono (Nat.mul_le_mul_right _ (units_mono le)) _)

/-- A finite number of plus sign that is not zero, divided by itself, is one. -/
theorem ofRank_div_self {rank : Nat} (positive : 0 < rank) (finite : rank < infinityRank) :
    ofRank false rank / ofRank false rank = one := by
  -- The exact quotient is the magnitude of one, which has a rank of its own.
  rw [ofRank_div finite positive finite, Nat.mul_comm, ← units_one,
    rankOfUnits_units_mul _ (units_pos positive), one]

/-- A natural number is rounded like any other magnitude. -/
theorem ofInt_natCast (count : Nat) :
    ofInt count = ofRank false (rankOfUnits (count * unitsInOne) 1) := by
  -- No natural number is below zero, so the sign is plus.
  have sign : ¬ (count : Int) < 0 := by omega
  simp only [ofInt, ofUnits, sign, decide_false, Int.natAbs_natCast]

/-- Natural numbers of up to 53 binary digits have ranks of their own. -/
theorem exists_units_eq {count : Nat} (small : count < 2 ^ 53) :
    ∃ rank < infinityRank, units rank = count * unitsInOne := by
  -- Zero has the rank zero, and any other number is brought to the length of 53 digits.
  rcases Nat.eq_zero_or_pos count with rfl | positive
  · exact ⟨0, by decide, (Nat.zero_mul unitsInOne).symm⟩
  · -- With its leading digit moved to the front, the number fills the 53 digits.
    have high : 2 ^ count.log2 ≤ count := Nat.log2_self_le (by omega)
    have low : count < 2 ^ (count.log2 + 1) := Nat.lt_log2_self
    have length : count.log2 < 53 := (Nat.log2_lt (by omega)).mpr small
    have full : binadeSize = 2 ^ count.log2 * 2 ^ (52 - count.log2) := by
      rw [← Nat.pow_add, Nat.add_sub_cancel' (by omega)]
      rfl
    have lead : binadeSize ≤ count * 2 ^ (52 - count.log2) := by
      rw [full]
      exact Nat.mul_le_mul_right _ high
    have short : count * 2 ^ (52 - count.log2) < 2 * binadeSize := by
      rw [full, ← Nat.mul_assoc, ← Nat.pow_succ']
      exact Nat.mul_lt_mul_of_pos_right low (Nat.two_pow_pos _)
    obtain ⟨shift, is⟩ : ∃ shift, shift = 1022 := ⟨_, rfl⟩
    refine ⟨(shift + count.log2) * binadeSize + count * 2 ^ (52 - count.log2), ?_, ?_⟩
    · have last : (shift + count.log2) * binadeSize ≤ 1074 * binadeSize :=
        Nat.mul_le_mul_right _ (by omega)
      simp only [infinityRank, binadeSize] at *
      omega
    · rw [units_of_shift (.inr lead) short, ← binadeSize_mul_pow is, full, pow_add]
      ac_rfl

/-- A natural number of up to 53 binary digits is its own nearest number. -/
theorem exists_rank_ofInt {count : Nat} (small : count < 2 ^ 53) :
    ∃ rank < infinityRank, ofInt count = ofRank false rank ∧ units rank = count * unitsInOne := by
  -- Its magnitude is that of a rank, and rounding keeps the magnitudes of ranks.
  obtain ⟨rank, finite, same⟩ := exists_units_eq small
  exact ⟨rank, finite, by rw [ofInt_natCast, ← same, rankOfUnits_units], same⟩

/-- Natural numbers whose sum has up to 53 binary digits are added up exactly. -/
theorem ofInt_add_ofInt {count other : Nat} (small : count + other < 2 ^ 53) :
    ofInt count + ofInt other = ofInt (count + other : Nat) := by
  -- All three are magnitudes of ranks, so the exact sum is one that rounding keeps.
  obtain ⟨rank, finite, is, same⟩ := exists_rank_ofInt (show count < 2 ^ 53 by omega)
  obtain ⟨beside, besideFinite, along, alike⟩ := exists_rank_ofInt (show other < 2 ^ 53 by omega)
  rw [is, along, ofRank_add finite besideFinite, same, alike, ← Nat.add_mul, ofInt_natCast]

/-- The quotient of natural numbers of up to 53 binary digits is their exact one, rounded once. -/
theorem ofInt_div_ofInt {count den : Nat} (small : count < 2 ^ 53) (positive : 0 < den)
    (denSmall : den < 2 ^ 53) : ofInt count / ofInt den = ofRatio count den := by
  -- Both have ranks of their own, and the magnitude of one is a factor of both magnitudes.
  obtain ⟨rank, finite, is, same⟩ := exists_rank_ofInt small
  obtain ⟨beside, besideFinite, along, alike⟩ := exists_rank_ofInt denSmall
  have units_den : 0 < units beside := by
    rw [alike]
    exact Nat.mul_pos positive unitsInOne_pos
  have nonzero : 0 < beside := by
    rcases Nat.eq_zero_or_pos beside with rfl | some
    · exact absurd units_den (by decide)
    · exact some
  rw [is, along, ofRank_div finite nonzero besideFinite, same, alike,
    rankOfUnits_mul_right _ _ unitsInOne_pos]
  rfl

/-- Of two numerators the greater gives no smaller quotient. -/
theorem ofRatio_mono {num other : Nat} (le : num ≤ other) (den : Nat) :
    ofRatio num den ≤ ofRatio other den :=
  ofRank_mono (rankOfUnits_mono (Nat.mul_le_mul_right _ le) den)

/-- A natural number divided by itself is one. -/
theorem ofRatio_self {count : Nat} (positive : 0 < count) : ofRatio count count = one := by
  -- The exact quotient is the magnitude of one, whatever the number is.
  have same : rankOfUnits (count * unitsInOne) count = 1023 * binadeSize := by
    rw [Nat.mul_comm, ← units_one, rankOfUnits_units_mul _ positive]
  simp only [ofRatio, ofUnits, same, one]

/-- No quotient of natural numbers is below zero. -/
theorem zero_le_ofRatio (num den : Nat) : .zero ≤ ofRatio num den :=
  ofRank_mono (Nat.zero_le _)

/-- A number that is equal to a natural number other than zero is the nearest one to it. -/
theorem eq_ofInt_of_integer? {x : Binary64} {count : Nat} (positive : 0 < count)
    (whole : x.integer? = some (count : Int)) : x = ofInt count := by
  -- Its signed magnitude is that many times the magnitude of one, which leaves one rank for it.
  unfold integer? at whole
  cases x with
  | nan => cases whole
  | number negative rank =>
    simp only [signedUnits?] at whole
    by_cases infinite : rank.val = infinityRank
    · simp [infinite] at whole
    rw [if_neg infinite] at whole
    obtain ⟨divides, quotient⟩ := Option.ite_none_right_eq_some.mp whole
    -- With a minus sign the size would be below zero.
    have size : signed negative (units rank) = count * unitsInOne := by
      rw [← Int.ediv_mul_cancel (Int.dvd_of_emod_eq_zero divides), Option.some.inj quotient]
    have above : (0 : Int) < count * unitsInOne :=
      Int.mul_pos (Int.ofNat_lt.mpr positive) (Int.ofNat_lt.mpr unitsInOne_pos)
    cases negative with
    | true =>
      simp only [signed, if_true] at size
      omega
    | false =>
      have magnitude : units rank = count * unitsInOne := by
        simp only [signed, Bool.false_eq_true, if_false] at size
        exact_mod_cast size
      have below : rank.val ≤ infinityRank := Nat.le_of_lt_succ rank.isLt
      rw [ofInt_natCast, ← magnitude, rankOfUnits_units]
      simp only [ofRank, Nat.min_eq_left below]

end Binary64

end LocoSounds
