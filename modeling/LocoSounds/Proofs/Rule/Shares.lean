import LocoSounds.Proofs.Rule.Thresholds
import Mathlib.Algebra.BigOperators.Group.List.Basic
import Mathlib.Algebra.Order.BigOperators.Group.List
import Mathlib.Algebra.Order.Field.Rat
import Mathlib.Order.Interval.Set.Defs
import Mathlib.Tactic.Linarith

/-! Which draws choose which alternative: those between two thresholds, and of exact numbers as many
as the weight of the alternative is of the total. -/

namespace LocoSounds

section

variable {α : Type} [LE α] [DecidableLE α] [IsTrans α (· ≤ ·)] {bounds : List α}
  {draw later last : α} {index other : Nat}

/-- Where thresholds are in order, a draw chooses the alternative at whose threshold or below it is,
unless it is at or below the one before as well. -/
theorem choose?_eq_some_iff (ordered : bounds.Pairwise (· ≤ ·)) :
    choose? bounds draw = some index ↔ ∃ inside : index < bounds.length,
      draw ≤ bounds[index] ∧ (index = 0 ∨ ¬ draw ≤ bounds[index - 1]) := by
  -- The first threshold reached is looked for, and in order only the one before it matters.
  simp only [choose?, List.findIdx?_eq_some_iff_getElem, decide_eq_true_eq]
  refine exists_congr fun inside => and_congr_right fun _ => ⟨fun above => ?_, ?_⟩
  · exact (Nat.eq_zero_or_pos index).imp_right fun some => above _ (Nat.sub_one_lt_of_lt some)
  · rintro (rfl | above) earlier before below
    · exact absurd before (Nat.not_lt_zero earlier)
    · -- What is at or below an earlier threshold is at or below the one just before.
      rcases Nat.lt_or_eq_of_le (Nat.le_sub_one_of_lt before) with far | rfl
      · have near := List.pairwise_iff_getElem.mp ordered earlier (index - 1) (by omega) (by omega)
          far
        exact above (IsTrans.trans _ _ _ below near)
      · exact above below

/-- A draw chooses nothing unless it is at or below the greatest threshold. -/
theorem choose?_eq_none_iff (top : last ∈ bounds) (below : ∀ bound ∈ bounds, bound ≤ last) :
    choose? bounds draw = none ↔ ¬ draw ≤ last := by
  -- The search finds nothing where no threshold is reached, and the last one is the greatest.
  simp only [choose?, List.findIdx?_eq_none_iff, decide_eq_false_iff_not]
  exact ⟨fun above => above last top, fun above bound member le =>
    above (IsTrans.trans _ _ _ le (below bound member))⟩

/-- Of two draws the greater does not choose an earlier alternative. -/
theorem le_of_choose? (le : draw ≤ later) (chosen : choose? bounds draw = some index)
    (chosenLater : choose? bounds later = some other) : index ≤ other := by
  -- What the later draw reaches the earlier one reaches too.
  simp only [choose?, List.findIdx?_eq_some_iff_getElem, decide_eq_true_eq] at chosen chosenLater
  obtain ⟨_, _, above⟩ := chosen
  obtain ⟨_, below, _⟩ := chosenLater
  by_contra before
  exact above other (Nat.lt_of_not_le before) (IsTrans.trans _ _ _ le below)

end

section

variable {α : Type}

/-- The part of the total that some number of the first weights have together. -/
def share [Zero α] [Add α] [Div α] (weights : List α) (count : Nat) : α :=
  totalWeight (weights.take count) / totalWeight weights

/-- A running sum is that of the weights up to its place. -/
theorem getElem_runningSums [Add α] (sum : α) (weights : List α) (index : Nat)
    (inside : index < (runningSums sum weights).length) :
    (runningSums sum weights)[index] = (weights.take (index + 1)).foldl (· + ·) sum := by
  -- By induction on the weights, along the index.
  induction weights generalizing sum index with
  | nil => cases inside
  | cons weight rest ih =>
    cases index with
    | zero => rfl
    | succ index =>
      have within := Nat.lt_of_succ_lt_succ inside
      exact ih (sum + weight) index within

end

variable {weights : List ℚ} {index : Nat}

/-- The total of exact weights is their sum. -/
theorem totalWeight_eq_sum (weights : List ℚ) : totalWeight weights = weights.sum :=
  List.sum_eq_foldl.symm

/-- Weights above zero have a total above zero. -/
theorem totalWeight_pos (some : weights ≠ []) (positive : ∀ weight ∈ weights, 0 < weight) :
    0 < totalWeight weights := by
  -- The total is a sum of positive numbers, one of them at least.
  rw [totalWeight_eq_sum]
  exact List.sum_pos weights positive some

/-- No weights have no share. -/
@[simp] theorem share_zero (weights : List ℚ) : share weights 0 = 0 :=
  zero_div (totalWeight weights)

/-- All weights together have the whole. -/
theorem share_length (whole : totalWeight weights ≠ 0) : share weights weights.length = 1 := by
  -- The first weights, all of them, have the total, which is divided by itself.
  rw [share, List.take_length, div_self whole]

/-- One weight more adds its own share. -/
theorem share_succ (inside : index < weights.length) :
    share weights (index + 1) = share weights index + weights[index] / totalWeight weights := by
  -- The sum of the first weights grows by the next one, and all is divided by the total.
  rw [share, share, totalWeight_eq_sum, totalWeight_eq_sum (weights.take index),
    List.sum_take_succ weights index inside, add_div]

/-- Each weight reaches further than those before it. -/
theorem share_lt_succ (positive : ∀ weight ∈ weights, 0 < weight)
    (inside : index < weights.length) :
    share weights index < share weights (index + 1) := by
  -- What is added is a positive weight, divided by a positive total.
  have some : weights ≠ [] := List.ne_nil_of_length_pos (Nat.zero_lt_of_lt inside)
  rw [share_succ inside]
  exact lt_add_of_pos_right _
    (div_pos (positive _ (List.getElem_mem inside)) (totalWeight_pos some positive))

/-- More weights have no smaller share. -/
theorem share_mono (positive : ∀ weight ∈ weights, 0 < weight) :
    Monotone (share weights) := by
  -- From one number to the next the share grows, or it stays once all weights are taken.
  refine monotone_nat_of_le_succ fun count => ?_
  rcases Nat.lt_or_ge count weights.length with inside | outside
  · exact (share_lt_succ positive inside).le
  · rw [share, share, List.take_of_length_le outside, List.take_of_length_le (by omega)]

/-- No share is below zero. -/
theorem share_nonneg (positive : ∀ weight ∈ weights, 0 < weight) (count : Nat) :
    0 ≤ share weights count := by
  -- The share of no weights is zero, and shares only grow.
  rw [← share_zero weights]
  exact share_mono positive (Nat.zero_le count)

/-- The thresholds of exact weights are the shares of the first, the first two and so on. -/
theorem getElem_thresholds (some : weights ≠ []) (positive : ∀ weight ∈ weights, 0 < weight)
    (inside : index < (thresholds weights).length) :
    (thresholds weights)[index] = share weights (index + 1) := by
  -- The total is divided by itself without rounding, so the thresholds are the running sums
  -- divided.
  have whole := div_self (totalWeight_pos some positive).ne'
  simp only [thresholds_eq some whole, List.getElem_map, getElem_runningSums]
  rfl

/-- There are as many thresholds of exact weights as weights. -/
theorem length_thresholds (some : weights ≠ []) (positive : ∀ weight ∈ weights, 0 < weight) :
    (thresholds weights).length = weights.length := by
  -- There is one running sum for each weight.
  rw [thresholds_eq some (div_self (totalWeight_pos some positive).ne'), List.length_map,
    length_runningSums]

/-- The draws from zero on that choose an alternative by exact weights are those above the share of
the alternatives before it, up to the share that includes its own. -/
theorem setOf_choose?_eq (positive : ∀ weight ∈ weights, 0 < weight)
    (inside : index < weights.length) :
    {draw | 0 ≤ draw ∧ choose? (thresholds weights) draw = some index} =
      if index = 0 then Set.Icc (share weights index) (share weights (index + 1))
      else Set.Ioc (share weights index) (share weights (index + 1)) := by
  -- With ordered thresholds the draws are those between the threshold before and its own.
  have some : weights ≠ [] := List.ne_nil_of_length_pos (Nat.zero_lt_of_lt inside)
  have mono := share_mono positive
  have length := length_thresholds some positive
  have ordered : (thresholds weights).Pairwise (· ≤ ·) := by
    refine List.pairwise_iff_getElem.mpr fun earlier later _ _ before => ?_
    rw [getElem_thresholds some positive, getElem_thresholds some positive]
    exact mono (Nat.succ_le_succ before.le)
  ext draw
  rw [Set.mem_ofPred_eq, choose?_eq_some_iff ordered]
  simp only [getElem_thresholds some positive, length, inside, exists_prop, true_and, not_le]
  rcases Nat.eq_zero_or_pos index with rfl | later
  · simp
  · -- Above the share of those before it a draw is above zero.
    have before : index - 1 + 1 = index := Nat.sub_add_cancel later
    simp only [before, later.ne', false_or, if_false, Set.mem_Ioc]
    constructor
    · rintro ⟨_, below, above⟩
      exact ⟨above, below⟩
    · rintro ⟨above, below⟩
      exact ⟨(share_nonneg positive index).trans above.le, below, above⟩

/-- Some draw below one chooses the alternative. -/
theorem exists_choose?_eq (positive : ∀ weight ∈ weights, 0 < weight)
    (inside : index < weights.length) :
    ∃ draw, 0 ≤ draw ∧ draw < 1 ∧ choose? (thresholds weights) draw = some index := by
  -- A draw is taken from between the two shares, which are apart as the weight is above zero.
  have some : weights ≠ [] := List.ne_nil_of_length_pos (Nat.zero_lt_of_lt inside)
  -- The middle of the interval is neither of its ends.
  have wide := share_lt_succ positive inside
  have low := share_nonneg positive index
  have high : share weights (index + 1) ≤ 1 := by
    rw [← share_length (totalWeight_pos some positive).ne']
    exact share_mono positive inside
  have middle : (share weights index + share weights (index + 1)) / 2 ∈
      {draw | 0 ≤ draw ∧ choose? (thresholds weights) draw = .some index} := by
    rw [setOf_choose?_eq positive inside]
    split
    · exact ⟨by linarith, by linarith⟩
    · exact ⟨by linarith, by linarith⟩
  exact ⟨_, middle.1, by linarith, middle.2⟩

namespace Binary64

/-- The exact value of a finite number. -/
def toRat (x : Binary64) : ℚ := (x.signedUnits?.getD 0 : ℤ) / (unitsInOne : ℚ)

/-- A finite number above zero has an exact value above zero. -/
theorem toRat_pos {x : Binary64} (finite : x.isFinite) (positive : .zero < x) : 0 < x.toRat := by
  -- A rank above zero has a magnitude above zero, and that is divided by the magnitude of one.
  obtain ⟨rank, some, below, rfl⟩ := exists_rank_of_positive finite positive
  have size : (ofRank false rank).signedUnits? = .some (units rank : ℤ) := by
    have here : min rank infinityRank = rank := Nat.min_eq_left below.le
    simp only [ofRank, signedUnits?, here, below.ne, if_false, signed, Bool.false_eq_true]
  rw [toRat, size, Option.getD_some]
  exact div_pos (by exact_mod_cast units_pos some) (by exact_mod_cast unitsInOne_pos)

end Binary64

end LocoSounds
