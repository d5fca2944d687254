import LocoSounds.Proofs.Rule.Thresholds
import Mathlib.Algebra.GroupWithZero.Nat

/-! Choices by natural weights: each stands for a choice without weights, in which an alternative is
repeated as often as its weight says. -/

namespace LocoSounds

/-- The natural number that a weight is, or zero. -/
def Binary64.count (weight : Binary64) : Nat := (weight.integer?.getD 0).toNat

namespace Rule

mutual

/-- The rule with a choice without weights in place of each choice, in which each alternative is
repeated as often as its weight said. -/
def repeated : Rule → Rule
  | .allOf rules => .allOf (repeatedInAll rules)
  | .oneOf choices =>
    let rules := repeatedInChoices choices
    .oneOf ((evenWeights rules.length).zip rules)
  | .when property value rule => .when property value rule.repeated
  | .ref name => .ref name
  | .sound name => .sound name

/-- Rules of a list with such choices in place of theirs. -/
def repeatedInAll : List Rule → List Rule
  | [] => []
  | rule :: rest => rule.repeated :: repeatedInAll rest

/-- The rules of alternatives, each as often as its weight says, with such choices in place of
theirs. -/
def repeatedInChoices : List (Binary64 × Rule) → List Rule
  | [] => []
  | (weight, rule) :: rest => List.replicate weight.count rule.repeated ++ repeatedInChoices rest

end

/-- The weights of alternatives are natural numbers above zero, and their total has up to 53 binary
digits. -/
structure Counts (choices : List (Binary64 × Rule)) : Prop where
  some : choices ≠ []
  natural : ∀ choice ∈ choices, ∃ count : Nat, 0 < count ∧ choice.1.integer? = .some (count : Int)
  total : (choices.map (·.1.count)).sum < 2 ^ 53

/-- The weights of every choice in a rule are such numbers. -/
def Counted (rule : Rule) : Prop :=
  ∀ choices, (Rule.oneOf choices).PartOf rule → Counts choices

end Rule

/-- The running sums of ones are all numbers up to their count. -/
theorem runningSums_replicate_one (sum count : Nat) :
    runningSums sum (List.replicate count 1) = List.range' (sum + 1) count := by
  -- By induction on the count, from any sum to start with.
  induction count generalizing sum with
  | zero => rfl
  | succ count ih => rw [List.replicate_succ, runningSums, ih, List.range'_succ]

/-- The running sums of natural numbers are up to their sum. -/
theorem le_of_mem_runningSums {sum bound : Nat} {counts : List Nat}
    (member : bound ∈ runningSums sum counts) : bound ≤ sum + counts.sum := by
  -- By induction on the numbers, from any sum to start with.
  induction counts generalizing sum with
  | nil => cases member
  | cons count rest ih =>
    rw [List.sum_cons]
    rcases List.mem_cons.mp member with rfl | later
    · omega
    · have below := ih later
      omega

namespace Binary64

/-- Running sums of small natural numbers are exact. -/
theorem runningSums_ofInt {sum : Nat} {counts : List Nat} (small : sum + counts.sum < 2 ^ 53) :
    runningSums (ofInt sum) (counts.map fun count : Nat => ofInt count) =
      (runningSums sum counts).map fun bound : Nat => ofInt bound := by
  -- By induction on the numbers; each sum on the way is at most the last one, so it is small.
  induction counts generalizing sum with
  | nil => rfl
  | cons count rest ih =>
    rw [List.sum_cons] at small
    rw [List.map_cons, runningSums, ofInt_add_ofInt (by omega), ih (by omega), runningSums,
      List.map_cons]

/-- Small natural numbers are added up exactly. -/
theorem foldl_ofInt {sum : Nat} {counts : List Nat} (small : sum + counts.sum < 2 ^ 53) :
    (counts.map fun count : Nat => ofInt count).foldl (· + ·) (ofInt sum) =
      ofInt (sum + counts.sum : Nat) := by
  -- By induction on the numbers; each sum on the way is at most the last one, so it is small.
  induction counts generalizing sum with
  | nil => rfl
  | cons count rest ih =>
    rw [List.sum_cons] at small
    rw [List.map_cons, List.foldl_cons, ofInt_add_ofInt (by omega), ih (by omega), List.sum_cons,
      Nat.add_assoc]

/-- The thresholds of small natural weights are their running sums, divided by their sum. -/
theorem thresholds_ofInt {counts : List Nat} (some : 0 < counts.sum) (small : counts.sum < 2 ^ 53) :
    thresholds (counts.map fun count : Nat => ofInt count) =
      (runningSums 0 counts).map fun bound => ofRatio bound counts.sum := by
  -- Total and running sums are exact, and each quotient is that of two small natural numbers.
  have zero : (0 : Binary64) = ofInt (0 : Nat) := by decide +kernel
  have total : totalWeight (counts.map fun count : Nat => ofInt count) = ofInt counts.sum := by
    rw [totalWeight, zero, foldl_ofInt (by omega), Nat.zero_add]
  have whole : ofInt counts.sum / ofInt counts.sum = 1 := by
    rw [ofInt_div_ofInt small some small, ofRatio_self some]
    rfl
  have nonempty : (counts.map fun count : Nat => ofInt count) ≠ [] := by
    rintro none
    rw [List.map_eq_nil_iff.mp none] at some
    cases some
  rw [thresholds_eq nonempty (by rw [total, whole]), total, zero, runningSums_ofInt (by omega),
    List.map_map]
  refine List.map_congr_left fun bound member => ?_
  have below := le_of_mem_runningSums member
  rw [Function.comp_apply, ofInt_div_ofInt (by omega) some small]

end Binary64

section

variable {β : Type} {reached : Nat → Bool}

/-- Some items, each as often as the number beside it says. -/
def copies (items : List (Nat × β)) : List β :=
  items.flatMap fun item => List.replicate item.1 item.2

/-- There are as many copies as the numbers beside the items come to. -/
theorem length_copies (items : List (Nat × β)) :
    (copies items).length = (items.map (·.1)).sum := by
  -- The copies are put end to end, so their lengths are added up.
  simp [copies, List.length_flatMap]

/-- Of some numbers in a row, one is the first to reach a bound where the last one does. -/
theorem exists_findIdx?_range' {start count : Nat} (some : 0 < count)
    (last : reached (start + count)) :
    ∃ index < count, (List.range' (start + 1) count).findIdx? reached = .some index := by
  -- The last number of the row reaches the bound, so the search comes to one.
  have member : start + count ∈ List.range' (start + 1) count := by
    rw [List.mem_range'_1]
    omega
  cases found : (List.range' (start + 1) count).findIdx? reached with
  | none =>
    have passed := List.findIdx?_eq_none_iff.mp found _ member
    rw [last] at passed
    cases passed
  | some index =>
    obtain ⟨inside, _⟩ := List.findIdx?_eq_some_iff_getElem.mp found
    rw [List.length_range'] at inside
    exact ⟨index, inside, rfl⟩

/-- Where the last of some numbers in a row does not reach a bound, none of them does. -/
theorem findIdx?_range'_eq_none (upward : ∀ low high, low ≤ high → reached low → reached high)
    {start count : Nat} (last : ¬ reached (start + count)) :
    (List.range' (start + 1) count).findIdx? reached = none := by
  -- None reaches the bound earlier than the last one, as reaching it goes upward.
  refine List.findIdx?_eq_none_iff.mpr fun bound member => ?_
  obtain ⟨_, below⟩ := List.mem_range'_1.mp member
  exact Bool.eq_false_iff.mpr fun holds => last (upward bound _ (by omega) holds)

/-- Among copies that are counted one by one, the same item is the first to reach a bound as among
the items with the running sums of the numbers beside them. -/
theorem getElem?_copies_eq (upward : ∀ low high, low ≤ high → reached low → reached high)
    (start : Nat) {items : List (Nat × β)} (positive : ∀ item ∈ items, 0 < item.1) :
    ((List.range' (start + 1) (copies items).length).findIdx? reached).bind ((copies items)[·]?) =
      ((runningSums start (items.map (·.1))).findIdx? reached).bind
        ((items.map (·.2))[·]?) := by
  -- By induction on the items; the first one has a row of copies, which is searched first.
  induction items generalizing start with
  | nil => rfl
  | cons item rest ih =>
    obtain ⟨some, others⟩ := List.forall_mem_cons.mp positive
    have split : copies (item :: rest) = List.replicate item.1 item.2 ++ copies rest :=
      List.flatMap_cons
    have row : List.range' (start + 1) (copies (item :: rest)).length =
        List.range' (start + 1) item.1 ++
          List.range' (start + item.1 + 1) (copies rest).length := by
      rw [split, List.length_append, List.length_replicate, ← List.range'_append_1,
        Nat.add_right_comm]
    rw [row, split, List.findIdx?_append, List.length_range', List.map_cons, runningSums,
      List.findIdx?_cons]
    -- The copies of the first item end where its number does.
    by_cases last : reached (start + item.1)
    · obtain ⟨index, inside, found⟩ := exists_findIdx?_range' some last
      rw [found, last]
      simp [inside, List.getElem?_append_left]
    · have later := ih (start + item.1) others
      rw [findIdx?_range'_eq_none upward last, Bool.eq_false_iff.mpr last]
      simpa [Option.bind_map, Function.comp_def, List.getElem?_append_right] using later

end

namespace Rule

/-- Choices are replaced in rules one by one. -/
theorem repeatedInAll_eq (rules : List Rule) : repeatedInAll rules = rules.map repeated := by
  -- By induction on the rules.
  induction rules with
  | nil => rfl
  | cons rule rest ih => rw [repeatedInAll, ih, List.map_cons]

/-- The rules of alternatives are copied as often as their weights say. -/
theorem repeatedInChoices_eq (choices : List (Binary64 × Rule)) :
    repeatedInChoices choices =
      copies (choices.map fun choice => (choice.1.count, choice.2.repeated)) := by
  -- By induction on the alternatives.
  induction choices with
  | nil => rfl
  | cons choice rest ih =>
    rw [repeatedInChoices, ih, List.map_cons, copies, copies, List.flatMap_cons]

/-- There are as many copies as the total weight. -/
theorem length_repeatedInChoices (choices : List (Binary64 × Rule)) :
    (repeatedInChoices choices).length = (choices.map (·.1.count)).sum := by
  -- The counts beside the alternatives are their weights.
  rw [repeatedInChoices_eq, length_copies, List.map_map]
  rfl

/-- Even weights are ones. -/
theorem evenWeights_eq (count : Nat) :
    evenWeights count = (List.replicate count 1).map fun count : Nat => Binary64.ofInt count := by
  -- One is the number nearest to the integer one.
  have one : Binary64.one = .ofInt (1 : Nat) := by decide +kernel
  rw [evenWeights, List.map_replicate, one]

namespace Counts

variable {choices : List (Binary64 × Rule)}

/-- Weights that are natural numbers are the nearest ones to those. -/
theorem weights_eq (counts : Counts choices) :
    choices.map (·.1) =
      (choices.map (·.1.count)).map fun count : Nat => Binary64.ofInt count := by
  -- Each weight is equal to a natural number, which fixes it.
  rw [List.map_map]
  refine List.map_congr_left fun choice member => ?_
  obtain ⟨count, positive, whole⟩ := counts.natural choice member
  have same : choice.1.count = count := by rw [Binary64.count, whole]; rfl
  rw [Function.comp_apply, same]
  exact Binary64.eq_ofInt_of_integer? positive whole

/-- Natural weights are above zero. -/
theorem count_pos (counts : Counts choices) : ∀ choice ∈ choices, 0 < choice.1.count := by
  -- The count is the natural number that the weight is equal to.
  intro choice member
  obtain ⟨count, positive, whole⟩ := counts.natural choice member
  rw [Binary64.count, whole]
  exact positive

/-- The total of natural weights is above zero. -/
theorem sum_pos (counts : Counts choices) : 0 < (choices.map (·.1.count)).sum := by
  -- There is a first alternative, and its weight alone is above zero.
  obtain ⟨choice, rest, rfl⟩ := List.exists_cons_of_ne_nil counts.some
  have first := counts.count_pos choice (.head _)
  rw [List.map_cons, List.sum_cons]
  omega

/-- Each number chooses a copy of the alternative that it chooses by weight. -/
theorem choose?_copies_eq (counts : Counts choices) (draw : Binary64) :
    (choose? (thresholds (evenWeights (repeatedInChoices choices).length)) draw).bind
        ((repeatedInChoices choices)[·]?) =
      (choose? (thresholds (choices.map (·.1))) draw).bind
        ((choices.map (·.2.repeated))[·]?) := by
  -- Even thresholds count the copies one by one, and the weighted ones count them in rows.
  have pos := counts.sum_pos
  have small := counts.total
  have length := length_repeatedInChoices choices
  have weighted := Binary64.thresholds_ofInt pos small
  rw [← counts.weights_eq] at weighted
  generalize total : (choices.map (·.1.count)).sum = sum at pos small length weighted
  have even : thresholds (evenWeights sum) =
      (List.range' 1 sum).map fun bound => Binary64.ofRatio bound sum := by
    have ones : (List.replicate sum 1).sum = sum := by simp
    have shares := Binary64.thresholds_ofInt (ones.symm ▸ pos) (ones.symm ▸ small)
    rwa [← evenWeights_eq, runningSums_replicate_one, ones] at shares
  -- Both choices look for the first of some numbers whose part of the same total is reached.
  have upward : ∀ low high, low ≤ high → decide (draw ≤ Binary64.ofRatio low sum) →
      decide (draw ≤ Binary64.ofRatio high sum) := by
    intro low high le below
    rw [decide_eq_true_eq] at below ⊢
    exact IsTrans.trans _ _ _ below (Binary64.ofRatio_mono le _)
  have positive : ∀ item ∈ choices.map fun choice => (choice.1.count, choice.2.repeated),
      0 < item.1 := List.forall_mem_map.mpr counts.count_pos
  have copied := getElem?_copies_eq upward 0 positive
  rw [← repeatedInChoices_eq, List.map_map, List.map_map, length] at copied
  rw [length, even, weighted, choose?, choose?, List.findIdx?_map, List.findIdx?_map]
  exact copied

/-- A choice that is put in place of another one is made from the copies without weights. -/
theorem choiceOfFields_copies (counts : Counts choices) :
    choiceOfFields (repeatedInChoices choices) true .null =
      .ok (Rule.oneOf choices).repeated := by
  -- There is a copy at least, and even weights can always be added up.
  have some : repeatedInChoices choices ≠ [] := by
    refine List.ne_nil_of_length_pos ?_
    rw [length_repeatedInChoices]
    exact counts.sum_pos
  rw [repeated]
  exact choiceOfFields_null some

end Counts

end Rule

end LocoSounds
