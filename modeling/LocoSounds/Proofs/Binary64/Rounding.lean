import LocoSounds.Rule.Choice
import Mathlib.Algebra.Group.Nat.Defs
import Mathlib.Data.Nat.Log
import Mathlib.Tactic.SplitIfs

/-! Rounding keeps the order of magnitudes, so adding up ones never leaves the finite numbers. -/

namespace LocoSounds

/-- Rounding to an integer never goes below the whole part. -/
theorem div_le_roundHalfEven (num den : Nat) : num / den ≤ roundHalfEven num den := by
  -- Rounding either keeps the whole part or goes to the next integer.
  simp only [roundHalfEven]
  split_ifs <;> omega

/-- Rounding to an integer goes up by one at most. -/
theorem roundHalfEven_le_succ (num den : Nat) : roundHalfEven num den ≤ num / den + 1 := by
  -- The next integer is the farthest that rounding goes.
  simp only [roundHalfEven]
  split_ifs <;> omega

/-- Of two numbers with the same whole part the greater has no smaller remainder. -/
theorem mod_le_mod_of_div_eq {num other den : Nat} (le : num ≤ other)
    (same : num / den = other / den) : num % den ≤ other % den := by
  -- Each number is its whole part times the denominator, and then its remainder.
  have first := Nat.div_add_mod num den
  have second := Nat.div_add_mod other den
  rw [same] at first
  omega

/-- Of two quotients of one denominator the greater is rounded to no smaller integer. -/
theorem roundHalfEven_mono {num other : Nat} (le : num ≤ other) (den : Nat) :
    roundHalfEven num den ≤ roundHalfEven other den := by
  -- The whole parts are in order; only where they are equal does the way of rounding matter.
  have whole : num / den ≤ other / den := Nat.div_le_div_right le
  rcases Nat.lt_or_eq_of_le whole with below | same
  · -- Neither of them is rounded past the next whole number.
    have up := roundHalfEven_le_succ num den
    have down := div_le_roundHalfEven other den
    omega
  · -- With the same whole part it is the remainders that are in order.
    have rest : num % den ≤ other % den := mod_le_mod_of_div_eq le same
    simp only [roundHalfEven, same]
    split_ifs <;> omega

namespace Binary64

/-- A magnitude is rounded to 53 binary digits, or to the least number that has one more. -/
theorem roundHalfEven_shift_le (num den : Nat) :
    roundHalfEven num (den * 2 ^ ((num / den).log2 - 52)) ≤ 2 * binadeSize := by
  -- Cutting off all digits but 53 leaves less than `2 ^ 53`, and rounding adds one at most.
  have digits : num / den < 2 ^ 53 * 2 ^ ((num / den).log2 - 52) := by
    rw [← Nat.pow_add]
    exact Nat.lt_of_lt_of_le Nat.lt_log2_self (Nat.pow_le_pow_right (by decide) (by omega))
  have whole : num / (den * 2 ^ ((num / den).log2 - 52)) < 2 ^ 53 := by
    rw [← Nat.div_div_eq_div_mul]
    exact Nat.div_lt_of_lt_mul (by rwa [Nat.mul_comm])
  have up := roundHalfEven_le_succ num (den * 2 ^ ((num / den).log2 - 52))
  simp only [binadeSize]
  omega

/-- A magnitude that is rounded in steps above one keeps all of its 53 binary digits. -/
theorem le_roundHalfEven_shift (num den : Nat) (high : 52 < (num / den).log2) :
    binadeSize ≤ roundHalfEven num (den * 2 ^ ((num / den).log2 - 52)) := by
  -- The leading digit is kept at the place of `2 ^ 52`, and rounding never goes below it.
  have digits : 2 ^ 52 * 2 ^ ((num / den).log2 - 52) ≤ num / den := by
    have nonzero : num / den ≠ 0 := by
      intro zero
      simp [zero] at high
    rw [← Nat.pow_add, Nat.add_sub_cancel' (Nat.le_of_lt high)]
    exact Nat.log2_self_le nonzero
  have whole : 2 ^ 52 ≤ num / (den * 2 ^ ((num / den).log2 - 52)) := by
    rw [← Nat.div_div_eq_div_mul]
    exact (Nat.le_div_iff_mul_le (Nat.two_pow_pos _)).mpr digits
  have down := div_le_roundHalfEven num (den * 2 ^ ((num / den).log2 - 52))
  simp only [binadeSize]
  omega

/-- Of two quotients of one denominator the greater has no smaller rank. -/
theorem rankOfUnits_mono {num other : Nat} (le : num ≤ other) (den : Nat) :
    rankOfUnits num den ≤ rankOfUnits other den := by
  -- A rank counts binades first and steps inside one second, so these two are compared in turn.
  have logs : (num / den).log2 ≤ (other / den).log2 := by
    rw [Nat.log2_eq_log_two, Nat.log2_eq_log_two]
    exact Nat.log_mono_right (Nat.div_le_div_right le)
  change ((num / den).log2 - 52) * binadeSize +
      roundHalfEven num (den * 2 ^ ((num / den).log2 - 52)) ≤
    ((other / den).log2 - 52) * binadeSize +
      roundHalfEven other (den * 2 ^ ((other / den).log2 - 52))
  rcases Nat.lt_or_ge ((num / den).log2 - 52) ((other / den).log2 - 52) with below | above
  · -- The greater one lies in a later binade, before which the smaller one ends.
    have up := roundHalfEven_shift_le num den
    have down := le_roundHalfEven_shift other den (by omega)
    have step : ((num / den).log2 - 52 + 1) * binadeSize ≤
        ((other / den).log2 - 52) * binadeSize := Nat.mul_le_mul_right binadeSize below
    rw [Nat.succ_mul] at step
    omega
  · -- In one binade both are rounded in the same steps.
    have same : (num / den).log2 - 52 = (other / den).log2 - 52 := by omega
    rw [same]
    exact Nat.add_le_add_left (roundHalfEven_mono le _) _

/-- Ranks below the least binade are magnitudes, and each binade above it doubles the step. -/
theorem units_eq (rank : Nat) : units rank = if rank < binadeSize then rank
    else (binadeSize + rank % binadeSize) * 2 ^ (rank / binadeSize - 1) := by
  -- The one binade where the two readings differ in form is the first, with steps of one unit.
  have positive : 0 < binadeSize := by decide
  unfold units
  split_ifs with below least <;> try omega
  · -- In the first binade with a leading digit the step is still one unit.
    have first : rank / binadeSize = 1 := by
      rw [Nat.div_eq_iff positive]
      omega
    have rest := Nat.div_add_mod rank binadeSize
    rw [first] at rest ⊢
    omega
  · rfl

/-- Of two ranks the greater is that of no smaller magnitude. -/
theorem units_mono {rank other : Nat} (le : rank ≤ other) : units rank ≤ units other := by
  -- Ranks inside one binade are in order by their steps, and ranks of two binades by where these
  -- lie.
  have binade : rank / binadeSize ≤ other / binadeSize := Nat.div_le_div_right le
  have least : ∀ n, binadeSize ≤ (binadeSize + other % binadeSize) * 2 ^ n := fun n =>
    Nat.le_trans (Nat.le_add_right _ _) (Nat.le_mul_of_pos_right _ (Nat.two_pow_pos n))
  rw [units_eq, units_eq]
  split_ifs with low high
  · exact le
  · exact Nat.le_trans (Nat.le_of_lt low) (least _)
  · omega
  · rcases Nat.lt_or_eq_of_le binade with below | same
    · -- The binade of the smaller one ends where the next one starts.
      have up : (binadeSize + rank % binadeSize) * 2 ^ (rank / binadeSize - 1) ≤
          binadeSize * 2 ^ (rank / binadeSize) := by
        have double : 2 ^ (rank / binadeSize) = 2 * 2 ^ (rank / binadeSize - 1) := by
          rw [← Nat.pow_succ', Nat.succ_eq_add_one, Nat.sub_add_cancel]
          exact (Nat.one_le_div_iff (by decide)).mpr (Nat.le_of_not_lt low)
        rw [double, ← Nat.mul_assoc]
        refine Nat.mul_le_mul_right _ ?_
        have rest : rank % binadeSize < binadeSize := Nat.mod_lt _ (by decide)
        omega
      have down : binadeSize * 2 ^ (rank / binadeSize) ≤
          (binadeSize + other % binadeSize) * 2 ^ (other / binadeSize - 1) :=
        Nat.mul_le_mul (Nat.le_add_right _ _) (Nat.pow_le_pow_right (by decide) (by omega))
      exact Nat.le_trans up down
    · -- In one binade the steps are the same.
      have rest : rank % binadeSize ≤ other % binadeSize := mod_le_mod_of_div_eq le same
      rw [same]
      exact Nat.mul_le_mul_right _ (Nat.add_le_add_left rest _)

/-- The sum of two finite numbers of plus sign is their exact sum, rounded once. -/
theorem ofRank_add {rank other : Nat} (finite : rank < infinityRank)
    (otherFinite : other < infinityRank) :
    ofRank false rank + ofRank false other =
      ofRank false (rankOfUnits (units rank + units other) 1) := by
  -- Neither is infinite, so the sum is that of the magnitudes, and no sign has to be settled.
  change Binary64.add (ofRank false rank) (ofRank false other) = _
  have here : min rank infinityRank = rank := Nat.min_eq_left (Nat.le_of_lt finite)
  have there : min other infinityRank = other := Nat.min_eq_left (Nat.le_of_lt otherFinite)
  simp only [ofRank, Binary64.add, here, there, Nat.ne_of_lt finite, Nat.ne_of_lt otherFinite,
    if_false, signed, Bool.false_eq_true, Bool.and_false]
  split_ifs with zero
  · -- Nothing and nothing has the rank of nothing.
    have none : units rank + units other = 0 := by omega
    simp [none, rankOfUnits, roundHalfEven]
  · have size : ((units rank : Int) + units other).natAbs = units rank + units other := by omega
    have sign : ¬ (units rank : Int) + units other < 0 := by omega
    simp only [ofUnits, ofRank, size, sign, decide_false]

end Binary64

/-- The rank of `2 ^ 53`, the least number that one more does not change. -/
def lastCountRank : Nat := 1076 * Binary64.binadeSize

/-- One more than a number up to `2 ^ 53` is again such a number. -/
theorem Binary64.ofRank_add_one {rank : Nat} (small : rank ≤ lastCountRank) :
    ∃ sum ≤ lastCountRank, ofRank false rank + one = ofRank false sum := by
  -- Addition is monotone, and the last such number takes in one more without a change.
  have last : lastCountRank < infinityRank := by decide
  refine ⟨rankOfUnits (units rank + units (1023 * binadeSize)) 1, ?_,
    ofRank_add (Nat.lt_of_le_of_lt small last) (by decide)⟩
  -- The greatest of these numbers is the one nearest to itself and one more.
  have absorbed : rankOfUnits (units lastCountRank + units (1023 * binadeSize)) 1 =
      lastCountRank := by decide +kernel
  rw [← absorbed]
  exact rankOfUnits_mono (Nat.add_le_add_right (units_mono small) _) 1

/-- However many ones are added up, the sum is finite. -/
theorem totalWeight_evenWeights_isFinite (count : Nat) :
    (totalWeight (Rule.evenWeights count)).isFinite := by
  -- The sum so far never goes past `2 ^ 53`, whatever is still to be added.
  have sums : ∀ rank ≤ lastCountRank, ∃ sum ≤ lastCountRank,
      (Rule.evenWeights count).foldl (· + ·) (.ofRank false rank) = .ofRank false sum := by
    induction count with
    | zero => exact fun rank small => ⟨rank, small, rfl⟩
    | succ count ih =>
      intro rank small
      obtain ⟨next, within, added⟩ := Binary64.ofRank_add_one small
      obtain ⟨sum, bound, rest⟩ := ih next within
      refine ⟨sum, bound, ?_⟩
      rw [Rule.evenWeights, List.replicate_succ, List.foldl_cons, added]
      exact rest
  obtain ⟨sum, bound, total⟩ := sums 0 (Nat.zero_le _)
  have last : lastCountRank < Binary64.infinityRank := by decide
  have total : totalWeight (Rule.evenWeights count) = .ofRank false sum := total
  rw [total]
  simp only [Binary64.isFinite, Binary64.ofRank, bne_iff_ne]
  omega

end LocoSounds
