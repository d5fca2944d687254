import LocoSounds.Proofs.Binary64.Exactness
import LocoSounds.Proofs.Rule.Grammar
import LocoSounds.Proofs.Rule.Parts

/-! The thresholds of a choice are in order, end in one, and are as many as its alternatives. -/

namespace LocoSounds

/-- Weights whose thresholds grade the numbers from zero to one. -/
structure Graded (weights : List Binary64) : Prop where
  some : weights ≠ []
  positive : ∀ weight ∈ weights, weight.isFinite ∧ .zero < weight
  total : (totalWeight weights).isFinite ∧ .zero < totalWeight weights
  count : (thresholds weights).length = weights.length
  ordered : (thresholds weights).Pairwise (· ≤ ·)
  within : ∀ threshold ∈ thresholds weights, .zero ≤ threshold ∧ threshold ≤ .one
  last : (thresholds weights).getLast? = .some .one
  /-- The total is the last of the running sums, so its share is one before the last threshold is
  set to one, and no threshold is changed by that. -/
  summed : (runningSums .zero weights).getLast? = .some (totalWeight weights)
  whole : totalWeight weights / totalWeight weights = .one
  unchanged : thresholds weights = (runningSums .zero weights).map (· / totalWeight weights)

section

variable {α : Type}

/-- There are as many running sums as weights. -/
@[simp] theorem length_runningSums [Add α] (sum : α) (weights : List α) :
    (runningSums sum weights).length = weights.length := by
  -- By induction on the weights, from any sum.
  induction weights generalizing sum with
  | nil => rfl
  | cons weight rest ih => rw [runningSums, List.length_cons, ih, List.length_cons]

/-- Counted from what stands before them, the running sums end in the sum of all. -/
theorem getLast_runningSums [Add α] (sum : α) (weights : List α) :
    (sum :: runningSums sum weights).getLast (List.cons_ne_nil _ _) =
      weights.foldl (· + ·) sum := by
  -- By induction on the weights, from any sum.
  induction weights generalizing sum with
  | nil => rfl
  | cons weight rest ih => simp only [runningSums, List.getLast_cons_cons, ih, List.foldl_cons]

/-- The last running sum of some weights is their total. -/
theorem getLast?_runningSums [Zero α] [Add α] {weights : List α} (some : weights ≠ []) :
    (runningSums 0 weights).getLast? = .some (totalWeight weights) := by
  -- There is a first weight, so the last of the sums is one of those made by adding.
  cases weights with
  | nil => exact absurd rfl some
  | cons weight rest =>
    rw [runningSums, List.getLast?_eq_some_getLast (List.cons_ne_nil _ _), getLast_runningSums]
    rfl

/-- Where the total divided by itself is one, setting the last threshold to one changes nothing. -/
theorem thresholds_eq [Zero α] [One α] [Add α] [Div α] {weights : List α} (some : weights ≠ [])
    (whole : totalWeight weights / totalWeight weights = 1) :
    thresholds weights = (runningSums 0 weights).map (· / totalWeight weights) := by
  -- The last quotient is one already, so cutting it off and putting one there gives the same list.
  have last : ((runningSums 0 weights).map (· / totalWeight weights)).getLast? = .some 1 := by
    rw [List.getLast?_map, getLast?_runningSums some, Option.map_some, whole]
  exact List.dropLast_append_getLast? 1 last

end

namespace Binary64

/-- A weight added to zero is the weight. -/
theorem zero_add_ofRank {rank : Nat} (finite : rank < infinityRank) :
    zero + ofRank false rank = ofRank false rank := by
  -- Zero has no magnitude, so the exact sum has the rank of the weight.
  have exact : rankOfUnits (units 0 + units rank) 1 = rank := by
    rw [units_eq 0, if_pos (by decide), Nat.zero_add, rankOfUnits_units]
  rw [zero, ofRank_add (by decide) finite, exact]

/-- A sum of plus sign that is infinite stays infinite, whatever weights are added. -/
theorem lt_infinityRank_of_foldl {weights : List Binary64}
    (positive : ∀ weight ∈ weights, weight.isFinite ∧ .zero < weight) {rank : Nat}
    (total : (weights.foldl (· + ·) (ofRank false rank)).isFinite) : rank < infinityRank := by
  -- By induction on the weights; infinity and anything added to it is infinity again.
  induction weights with
  | nil => exact isFinite_ofRank_iff.mp total
  | cons weight rest ih =>
    obtain ⟨⟨finite, above⟩, others⟩ := List.forall_mem_cons.mp positive
    obtain ⟨added, _, small, rfl⟩ := exists_rank_of_positive finite above
    by_contra infinite
    have top : min rank infinityRank = infinityRank := by omega
    have absorbed : ofRank false rank + ofRank false added = ofRank false rank := by
      change Binary64.add (ofRank false rank) (ofRank false added) = _
      simp [ofRank, Binary64.add, top]
    rw [List.foldl_cons, absorbed] at total
    exact infinite (ih others total)

/-- Weights that add up to a finite sum have running sums in order, none of which is above it. -/
theorem exists_ranks_runningSums {weights : List Binary64}
    (positive : ∀ weight ∈ weights, weight.isFinite ∧ .zero < weight) {rank : Nat}
    (total : (weights.foldl (· + ·) (ofRank false rank)).isFinite) :
    ∃ ranks : List Nat, ∃ top < infinityRank,
      runningSums (ofRank false rank) weights = ranks.map (ofRank false) ∧
      weights.foldl (· + ·) (ofRank false rank) = ofRank false top ∧
      (rank :: ranks).Pairwise (· ≤ ·) ∧ ∀ sum ∈ rank :: ranks, sum ≤ top := by
  -- By induction on the weights; each sum is finite, so it has a rank of its own.
  have finite := lt_infinityRank_of_foldl positive total
  induction weights generalizing rank with
  | nil => exact ⟨[], rank, finite, rfl, rfl, by simp, by simp⟩
  | cons weight rest ih =>
    obtain ⟨⟨here, above⟩, others⟩ := List.forall_mem_cons.mp positive
    obtain ⟨added, _, small, rfl⟩ := exists_rank_of_positive here above
    rw [List.foldl_cons, ofRank_add finite small] at total
    -- The exact sum is not below what the weight is added to, so neither is the rounded one.
    have grows : rank ≤ rankOfUnits (units rank + units added) 1 := by
      have mono := rankOfUnits_mono (Nat.le_add_right (units rank) (units added)) 1
      rwa [rankOfUnits_units] at mono
    obtain ⟨ranks, top, bound, sums, whole, ordered, below⟩ :=
      ih others total (lt_infinityRank_of_foldl others total)
    obtain ⟨first, later⟩ := List.forall_mem_cons.mp below
    refine ⟨_ :: ranks, top, bound, ?_, ?_, List.pairwise_cons.mpr ⟨?_, ordered⟩,
      List.forall_mem_cons.mpr ⟨Nat.le_trans grows first, below⟩⟩
    · rw [runningSums, ofRank_add finite small, sums, List.map_cons]
    · rw [List.foldl_cons, ofRank_add finite small, whole]
    · have after := (List.pairwise_cons.mp ordered).1
      exact List.forall_mem_cons.mpr
        ⟨grows, fun sum member => Nat.le_trans grows (after sum member)⟩

end Binary64

/-- Finite weights above zero whose sum is finite are graded. -/
theorem graded_of_positive {weights : List Binary64} (some : weights ≠ [])
    (positive : ∀ weight ∈ weights, weight.isFinite ∧ .zero < weight)
    (total : (totalWeight weights).isFinite) : Graded weights := by
  -- The thresholds are quotients of ranks by the greatest of them, so order carries over.
  obtain ⟨first, rest, rfl⟩ := List.exists_cons_of_ne_nil some
  obtain ⟨⟨finite, above⟩, others⟩ := List.forall_mem_cons.mp positive
  obtain ⟨rank, nonzero, small, rfl⟩ := Binary64.exists_rank_of_positive finite above
  -- From the first weight on no sum falls back to zero.
  have start : (0 : Binary64) + .ofRank false rank = .ofRank false rank :=
    Binary64.zero_add_ofRank small
  have all : totalWeight (.ofRank false rank :: rest) =
      rest.foldl (· + ·) (.ofRank false rank) := by
    rw [totalWeight, List.foldl_cons, start]
  rw [all] at total
  obtain ⟨ranks, top, bound, sums, whole, ordered, below⟩ :=
    Binary64.exists_ranks_runningSums others total
  rw [whole] at all
  have filled : 0 < top := Nat.lt_of_lt_of_le nonzero (below rank (.head _))
  have running : runningSums 0 (.ofRank false rank :: rest) =
      (rank :: ranks).map (Binary64.ofRank false) := by
    rw [runningSums, start, sums, List.map_cons]
  have self : Binary64.ofRank false top / .ofRank false top = .one :=
    Binary64.ofRank_div_self filled bound
  have quotient : totalWeight (.ofRank false rank :: rest) /
      totalWeight (.ofRank false rank :: rest) = 1 := by
    rw [all]
    exact self
  have unchanged := thresholds_eq some quotient
  have shares : thresholds (.ofRank false rank :: rest) =
      (rank :: ranks).map fun sum => Binary64.ofRank false sum / .ofRank false top := by
    rw [unchanged, running, all, List.map_map]
    rfl
  refine ⟨some, positive, ⟨?_, ?_⟩, ?_, ?_, ?_, List.getLast?_concat, getLast?_runningSums some,
    quotient, unchanged⟩
  · rw [all]
    exact Binary64.isFinite_ofRank_iff.mpr bound
  · rw [all]
    exact Binary64.zero_lt_ofRank_iff.mpr filled
  · rw [unchanged, List.length_map, length_runningSums]
  · rw [shares]
    refine List.pairwise_map.mpr (ordered.imp_of_mem fun _ member le => ?_)
    exact Binary64.ofRank_div_mono le (Nat.lt_of_le_of_lt (below _ member) bound) filled bound
  · rw [shares]
    refine List.forall_mem_map.mpr fun sum member => ⟨?_, ?_⟩
    · rw [Binary64.ofRank_div (Nat.lt_of_le_of_lt (below sum member) bound) filled bound]
      exact Binary64.ofRank_mono (Nat.zero_le _)
    · rw [← self]
      exact Binary64.ofRank_div_mono (below sum member) bound filled bound

namespace Rule

/-- A choice is made between some rules with as many weights that can be added up. -/
theorem choice_eq_ok_iff {rules : List Rule} {weights : Option (List Binary64)} {rule : Rule} :
    choice rules weights = .ok rule ↔ ∃ given, weights = some given ∧ rules ≠ [] ∧
      given.length = rules.length ∧ (∀ weight ∈ given, weight.isFinite ∧ .zero < weight) ∧
      (totalWeight given).isFinite ∧ rule = .oneOf (given.zip rules) := by
  -- Weights that are missing are refused first, and then the four checks are made.
  cases weights with
  | none => cases rules <;> simp [choice]
  | some given =>
    -- At a location the same choice is made, and only its fault is worded for it.
    have located : choice rules (some given) = .ok rule ↔
        choiceAt .document rules given = .ok rule := by
      unfold choiceAt
      cases choice rules (some given) <;> simp
    rw [located, choiceAt_eq_ok_iff]
    simp

/-- The weights of a choice that was made are graded. -/
theorem graded_of_choice {rules : List Rule} {weights : Option (List Binary64)}
    {choices : List (Binary64 × Rule)} (made : choice rules weights = .ok (.oneOf choices)) :
    Graded (choices.map (·.1)) := by
  -- What the checks let through is what is graded, and zipping keeps the weights.
  obtain ⟨given, _, some, length, positive, total, same⟩ := choice_eq_ok_iff.mp made
  have heads : choices.map (·.1) = given := by
    rw [Rule.oneOf.inj same]
    exact List.map_fst_zip (Nat.le_of_eq length)
  rw [heads]
  refine graded_of_positive ?_ positive total
  rintro rfl
  exact some (List.length_eq_zero_iff.mp length.symm)

/-- Alternatives that a choice between rules can be made of. -/
def Makes (choices : List (Binary64 × Rule)) : Prop :=
  ∃ rules weights, choice rules weights = .ok (.oneOf choices)

/-- Every choice in a rule is one that can be made. -/
def Made (rule : Rule) : Prop :=
  ∀ choices, (Rule.oneOf choices).PartOf rule → Makes choices

/-- Weights that a mapping gives to rules make a choice between them. -/
theorem makes_of_weighs {entries : Entries} {rules : List Rule} {weights : List Binary64}
    (some : rules ≠ []) (weighs : entries.Weighs rules.length weights) :
    Makes (weights.zip rules) := by
  -- Even weights and listed ones both pass the checks.
  refine ⟨rules, .some weights, choice_eq_ok_iff.mpr ⟨weights, rfl, some, ?_⟩⟩
  cases weighs with
  | absent | null =>
    exact ⟨by simp, fun _ => evenWeights_positive, totalWeight_evenWeights_isFinite _, rfl⟩
  | list _ _ length positive total => exact ⟨length, positive, total, rfl⟩

/-- Each rule of a list that was denoted is denoted by some token. -/
theorem exists_denoting {items : List Token} {rules : List Rule}
    (each : List.Forall₂ Denotes items rules) : ∀ rule ∈ rules, ∃ item, Denotes item rule :=
  forall_mem_of_forall₂ _ each fun item _ _ reads => ⟨item, reads⟩

/-- In a rule that a token denotes, every choice is one that can be made. -/
theorem made_of_denotes {token : Token} {rule : Rule} (denotes : Denotes token rule) :
    Made rule := by
  -- By induction on the rule; a choice in it stands where the grammar asks for a denoted rule.
  induction rule generalizing token with
  | allOf rules ih =>
    obtain _ | ⟨_, _, _, each, _⟩ := denotes
    intro choices inside
    obtain ⟨rule, member, inside⟩ := (partOf_allOf_iff.mp inside).resolve_left nofun
    rcases List.mem_append.mp member with read | sound
    · obtain ⟨item, reads⟩ := exists_denoting each rule read
      exact ih rule member reads choices inside
    · obtain ⟨name, _, rfl⟩ := List.mem_map.mp sound
      cases inside
  | oneOf choices ih =>
    obtain _ | _ | @⟨_, _, items, rules, weights, _, _, _, some, each, weighs⟩ := denotes
    intro others inside
    rcases partOf_oneOf_iff.mp inside with same | ⟨choice, member, inside⟩
    · cases same
      rw [each.length_eq] at weighs
      exact makes_of_weighs ((ne_nil_iff_of_forall₂ each).mp some) weighs
    · obtain ⟨item, reads⟩ := exists_denoting each choice.2 (List.of_mem_zip member).2
      exact ih choice member reads others inside
  | when property value rule ih =>
    obtain _ | _ | _ | ⟨_, _, _, _, _, _, reads⟩ := denotes
    intro choices inside
    exact ih reads choices ((partOf_when_iff.mp inside).resolve_left nofun)
  | ref name => exact fun choices inside => nomatch partOf_ref_iff.mp inside
  | sound name => exact fun choices inside => nomatch partOf_sound_iff.mp inside

/-- In a rule that was read from a token, every choice is one that can be made. -/
theorem made_of_ofToken {location : Location} {token : Token} {rule : Rule}
    (read : ofToken location token = .ok rule) : Made rule :=
  made_of_denotes ((readAsDenoted token location rule).mp read)

/-- Null weights are even where they are filled in, and none otherwise. -/
theorem choiceOfFields_of_null {token : Token} (null : token.isNull) (rules : List Rule)
    (fillWeights : Bool) : choiceOfFields rules fillWeights token =
      (choice rules (if fillWeights then some (evenWeights rules.length) else none)).mapError
        .invalid := by
  -- Null skips the reading of weights, so only the choice itself can fail.
  simp only [choiceOfFields, null, if_true, pure_bind]
  cases choice rules _ <;> rfl

/-- Weights that are not null are those that the token holds, if it holds a list of numbers. -/
theorem choiceOfFields_of_items {token : Token} (given : ¬ token.isNull) (rules : List Rule)
    (fillWeights : Bool) : choiceOfFields rules fillWeights token =
      (token.toItems Token.toNumber "weights").mapError .fields >>= fun weights =>
        (choice rules (some weights)).mapError .invalid := by
  -- Weights are read first, and only then is the choice made.
  simp only [choiceOfFields, given]
  cases token.toItems Token.toNumber "weights" with
  | error errors => rfl
  | ok weights =>
    change _ = (choice rules (some weights)).mapError ChoiceError.invalid
    simp only [Bool.false_eq_true, if_false, pure_bind]
    cases choice rules (some weights) <;> rfl

/-- Where a choice is made from the values of its fields, the rules are there, and the weights are
even or those that the token holds. -/
theorem choice_of_choiceOfFields {rules : List Rule} {fillWeights : Bool} {token : Token}
    {rule : Rule} (made : choiceOfFields rules fillWeights token = .ok rule) :
    ∃ weights, choice rules (some weights) = .ok rule ∧
      (token.isNull → weights = evenWeights rules.length) ∧
      (¬ token.isNull → token.toItems Token.toNumber "weights" = .ok weights) := by
  -- Null and other tokens go different ways, but both end in a choice with weights.
  by_cases null : token.isNull
  · rw [choiceOfFields_of_null null] at made
    have chosen := mapError_eq_ok_iff.mp made
    cases fillWeights with
    | true => exact ⟨_, chosen, fun _ => rfl, fun given => absurd null given⟩
    | false =>
      obtain ⟨given, absent, _⟩ := choice_eq_ok_iff.mp chosen
      cases absent
  · rw [choiceOfFields_of_items null] at made
    obtain ⟨weights, items, made⟩ := bind_eq_ok_iff.mp made
    exact ⟨weights, mapError_eq_ok_iff.mp made, fun none => absurd none null,
      fun _ => mapError_eq_ok_iff.mp items⟩

/-- Without weights, a choice between some rules is made with even ones. -/
theorem choiceOfFields_null {rules : List Rule} (some : rules ≠ []) :
    choiceOfFields rules true .null = .ok (.oneOf ((evenWeights rules.length).zip rules)) := by
  -- Even weights pass every check, where there is a rule at all.
  rw [choiceOfFields_of_null rfl, if_pos rfl]
  exact mapError_eq_ok_iff.mpr (choice_eq_ok_iff.mpr ⟨_, rfl, some, List.length_replicate,
    fun _ => evenWeights_positive, totalWeight_evenWeights_isFinite _, rfl⟩)

/--
The thresholds of every choice are well formed.

This holds of each choice anywhere in a rule that was read from a token, and of each one made from
the values of its fields, with weights that are left out, null or given.
There are alternatives, and each has a weight.
Weights are finite and above zero and so is their sum, so no share is divided by zero.
There are as many thresholds, in order, between zero and one.
The last is one, which is the share of the last running sum even before it is set.
-/
theorem choices_are_graded :
    (∀ (location : Location) (token : Token) (rule : Rule), ofToken location token = .ok rule →
      ∀ choices, (Rule.oneOf choices).PartOf rule → Graded (choices.map (·.1))) ∧
    (∀ (rules : List Rule) (fillWeights : Bool) (token : Token) (rule : Rule),
      choiceOfFields rules fillWeights token = .ok rule →
      ∃ weights, rule = .oneOf (weights.zip rules) ∧ rules ≠ [] ∧
        weights.length = rules.length ∧
        (token.isNull → weights = evenWeights rules.length) ∧
        (¬ token.isNull → token.toItems Token.toNumber "weights" = .ok weights) ∧
        Graded weights) := by
  -- A rule that was read is one that a token denotes, and a choice made from fields was checked.
  constructor
  · intro location token rule read choices inside
    obtain ⟨rules, weights, made⟩ := made_of_ofToken read choices inside
    exact graded_of_choice made
  · intro rules fillWeights token rule made
    obtain ⟨weights, chosen, even, given⟩ := choice_of_choiceOfFields made
    obtain ⟨_, same, some, length, positive, total, rfl⟩ := choice_eq_ok_iff.mp chosen
    cases same
    refine ⟨weights, rfl, some, length, even, given, graded_of_positive ?_ positive total⟩
    rintro rfl
    exact some (List.length_eq_zero_iff.mp length.symm)

/-- A choice between horns and bells, one to three, is graded, and so is one with even weights. -/
theorem horns_and_bells_are_graded :
    let entries : Entries := [(.text "type", .text "OneOf"),
      (.text "rules", .list [.text "horns", .text "bells"]),
      (.text "weights", .list [.scalar (.int 1), .scalar (.int 3)])]
    let choices : List (Binary64 × Rule) := [(.ofInt 1, .ref "horns"), (.ofInt 3, .ref "bells")]
    ofToken .document (.mapping entries) = .ok (.oneOf choices) ∧ Graded (choices.map (·.1)) ∧
      choiceOfFields [.ref "horns", .ref "bells"] true .null =
        .ok (.oneOf [(.one, .ref "horns"), (.one, .ref "bells")]) ∧
      Graded [.one, .one] := by
  -- Read from a mapping and made from fields, the two choices are cases of the two parts.
  intro entries choices
  obtain ⟨read, direct⟩ := choices_are_graded
  have type : entries.Says "type" "OneOf" := rfl
  have each : List.Forall₂ Denotes [.text "horns", .text "bells"] [.ref "horns", .ref "bells"] :=
    .cons .name (.cons .name .nil)
  have weighs : entries.Weighs 2 [.ofInt 1, .ofInt 3] :=
    .list rfl (.cons (.int 1) (.cons (.int 3) .nil)) rfl (by decide +kernel) (by decide +kernel)
  have denotes : Denotes (.mapping entries) (.oneOf choices) :=
    .oneOf type (by decide +kernel) rfl nofun each weighs
  have parsed := (readAsDenoted (.mapping entries) .document _).mpr denotes
  have made : choiceOfFields [.ref "horns", .ref "bells"] true .null =
      .ok (.oneOf [(.one, .ref "horns"), (.one, .ref "bells")]) := choiceOfFields_null nofun
  obtain ⟨weights, _, _, _, even, _, graded⟩ := direct _ _ _ _ made
  rw [even rfl] at graded
  exact ⟨parsed, read _ _ _ parsed choices .self, made, graded⟩

end Rule

end LocoSounds
