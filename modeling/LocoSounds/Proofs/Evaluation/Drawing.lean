import LocoSounds.Proofs.Evaluation.Recording
import LocoSounds.Proofs.Registry.Pruning
import LocoSounds.Proofs.Rule.Shares

/-! Draws from zero to below one: each of them chooses one alternative, so no choice that is reached
does nothing. -/

namespace LocoSounds

/-- The numbers of a source are from zero to below one. -/
def DrawSource.BelowOne (σ : Type) [DrawSource σ] : Prop :=
  ∀ source : σ, .zero ≤ (draw source).1.value ∧ (draw source).1.value < .one

/-- What happened is no draw that chose nothing. -/
def Event.Decided : Event → Prop
  | .chosen weights _ _ index => ∃ position < weights.length, index = some position
  | _ => True

/-- An effect adds to the journal, but no draw that chose nothing. -/
def Effect.Decided {σ π : Type} (effect : Effect σ π) : Prop :=
  ∀ run, ∃ events, (effect run).2.journal = run.journal ++ events ∧ ∀ event ∈ events, event.Decided

/-- A word that is shifted to the right has fewer binary digits. -/
theorem toNat_shiftRight_lt (word shift : UInt32) :
    (word >>> shift).toNat < 2 ^ (32 - shift.toNat % 32) := by
  -- What the shift cuts off and what it leaves make up the 32 digits together.
  have digits : 2 ^ (shift.toNat % 32) * 2 ^ (32 - shift.toNat % 32) = 2 ^ 32 := by
    rw [← Nat.pow_add, Nat.add_sub_cancel' (Nat.mod_lt _ (by decide)).le]
  rw [UInt32.toNat_shiftRight, Nat.shiftRight_eq_div_pow]
  exact Nat.div_lt_of_lt_mul (digits ▸ word.toNat_lt)

/-- A number of the generator is a whole number of steps, less than it takes to one. -/
theorem Twister.exists_draw_eq (twister : Twister) :
    ∃ steps < 2 ^ 53, twister.draw.1 = .ofRatio steps (2 ^ 53) := by
  -- The two words give 27 digits and 26, which the generator puts side by side.
  have high : (twister.next.1 >>> 5).toNat < 2 ^ 27 := toNat_shiftRight_lt _ 5
  have low : (twister.next.2.next.1 >>> 6).toNat < 2 ^ 26 := toNat_shiftRight_lt _ 6
  refine ⟨(twister.next.1 >>> 5).toNat * 2 ^ 26 + (twister.next.2.next.1 >>> 6).toNat, ?_, rfl⟩
  omega

/-- The numbers of a seed are from zero to below one. -/
theorem SeededDraws.belowOne : DrawSource.BelowOne SeededDraws := by
  -- A number drawn is a ratio of steps, so it is compared with the last one below one.
  intro source
  obtain ⟨steps, few, drawn⟩ := source.twister.exists_draw_eq
  have number : (DrawSource.draw source).1.value = .ofRatio steps (2 ^ 53) := drawn
  rw [number]
  refine ⟨Binary64.zero_le_ofRatio _ _, (Binary64.not_le_iff (Binary64.ofRank_ne_nan _ _)
    (Binary64.ofRank_ne_nan _ _)).mp fun reached => ?_⟩
  -- The last step below one is the greatest number that can be drawn.
  have last := Binary64.ofRatio_mono (Nat.le_sub_one_of_lt few) (2 ^ 53)
  have above : Binary64.one ≤ .ofRatio (2 ^ 53 - 1) (2 ^ 53) := IsTrans.trans _ _ _ reached last
  exact absurd above (by decide +kernel)

namespace Rule.Makes

variable {choices : List (Binary64 × Rule)} {draw : Binary64} {index : Nat}

/-- The weights of a choice that can be made are graded. -/
theorem graded (makes : Makes choices) : Graded (choices.map (·.1)) := by
  -- The weights come from the making of the choice, where they were checked.
  obtain ⟨rules, weights, made⟩ := makes
  exact graded_of_choice made

/-- A draw chooses the alternative at whose threshold or below it is, unless it is not above the
threshold before. -/
theorem choose?_eq_some_iff (makes : Makes choices) :
    choose? (thresholds (choices.map (·.1))) draw = some index ↔
      ∃ inside : index < (thresholds (choices.map (·.1))).length,
        draw ≤ (thresholds (choices.map (·.1)))[index] ∧
        (index = 0 ∨ (thresholds (choices.map (·.1)))[index - 1] < draw) := by
  -- The thresholds are in order, so the first one that the draw does not pass is looked for.
  rw [LocoSounds.choose?_eq_some_iff makes.graded.ordered]
  refine exists_congr fun inside => and_congr_right fun below => or_congr_right ?_
  -- A threshold is a number, and what is at or below one is a number too.
  obtain ⟨_, within⟩ := makes.graded.within _ (List.getElem_mem (by omega : index - 1 < _))
  exact Binary64.not_le_iff (Binary64.ne_nan_of_ge below) (Binary64.ne_nan_of_ge within)

/-- A draw chooses nothing where it is no number or above one. -/
theorem choose?_eq_none_iff (makes : Makes choices) :
    choose? (thresholds (choices.map (·.1))) draw = none ↔ draw = .nan ∨ .one < draw := by
  -- The last threshold is one, so only what does not stand at or below one passes them all.
  have top : Binary64.one ∈ thresholds (choices.map (·.1)) :=
    List.mem_of_getLast? makes.graded.last
  rw [LocoSounds.choose?_eq_none_iff top fun bound member => (makes.graded.within bound member).2]
  by_cases number : draw = .nan
  · simp only [number, true_or, iff_true]
    exact id
  · rw [or_iff_right number]
    exact Binary64.not_le_iff number (Binary64.ofRank_ne_nan _ _)

/-- A draw from zero to one chooses an alternative. -/
theorem exists_choose?_eq (makes : Makes choices) (below : draw ≤ .one) :
    ∃ index < choices.length, choose? (thresholds (choices.map (·.1))) draw = some index := by
  -- Choosing nothing is left to draws above one and to those that are no numbers.
  have number := Binary64.ne_nan_of_ge below
  cases chosen : choose? (thresholds (choices.map (·.1))) draw with
  | none =>
    rcases makes.choose?_eq_none_iff.mp chosen with absent | above
    · exact absurd absent number
    · exact absurd below ((Binary64.not_le_iff number (Binary64.ofRank_ne_nan _ _)).mpr above)
  | some index =>
    obtain ⟨inside, _⟩ := makes.choose?_eq_some_iff.mp chosen
    rw [makes.graded.count, List.length_map] at inside
    exact ⟨index, inside, rfl⟩

variable {σ π : Type} [DrawSource σ]

/-- A source of numbers below one draws an alternative. -/
theorem exists_drawChoice_eq (makes : Makes choices) (belowOne : DrawSource.BelowOne σ)
    (run : Run σ π) :
    ∃ index < choices.length, (drawChoice (choices.map (·.1)) run).1 = some index :=
  makes.exists_choose?_eq (Binary64.le_of_lt (belowOne run.draws).2)

variable [SkinSource π]

/-- A choice that can be made applies the alternative that is drawn, once the draw is taken. -/
theorem exists_effect_eq (makes : Makes choices) (belowOne : DrawSource.BelowOne σ)
    (registry : Registry) (car : Car) (call : String → Effect σ π) (run : Run σ π) :
    ∃ index, ∃ inside : index < choices.length,
      (drawChoice (choices.map (·.1)) run).1 = some index ∧
      (Rule.oneOf choices).effect registry car call run =
        choices[index].2.effect registry car call (drawChoice (choices.map (·.1)) run).2 := by
  -- The draw gives an index within the choice, and the alternative there is what is applied.
  obtain ⟨index, inside, drawn⟩ := makes.exists_drawChoice_eq belowOne run
  have chosen : drawnChoice? choices run = some choices[index] := by
    rw [drawnChoice?, drawn, Option.bind_some, List.getElem?_eq_getElem inside]
  exact ⟨index, inside, drawn, by rw [effect_oneOf_eq, chosen]⟩

end Rule.Makes

section

variable {σ π : Type}

/-- An event that is recorded is no draw that chose nothing. -/
def Recordable.decided : Recordable := fun _ events => ∀ event ∈ events, event.Decided

/-- What holds of each event may be recorded in a row. -/
theorem Recordable.decided_inRow : decided.InRow where
  nil := fun _ member => absurd member List.not_mem_nil
  append _ _ _ before after := List.forall_mem_append.mpr ⟨before, after⟩

/-- Every choice in a part of a rule can be made where every choice in the rule can. -/
theorem Rule.Made.part {part rule : Rule} (made : rule.Made) (inside : part.PartOf rule) :
    part.Made :=
  fun choices inner => made choices (inner.trans inside)

variable [DrawSource σ] [SkinSource π] {registry : Registry} {car : Car}

omit [SkinSource π] in
/-- From numbers below one, every draw of a rule whose choices can be made chooses something. -/
theorem Rule.Made.draws (belowOne : DrawSource.BelowOne σ) {rule : Rule} (made : rule.Made) :
    Recordable.decided.Draws σ π rule := by
  -- Every choice inside is one that can be made, and a draw of the source is in range for it.
  intro choices inside run bounds draw
  obtain ⟨index, within, drawn⟩ := (made choices inside).exists_drawChoice_eq belowOne run
  exact List.forall_mem_singleton.mpr ⟨index, by rwa [List.length_map], drawn⟩

/-- From numbers below one, every draw of a rule chooses something where those of the rules that it
refers to do. -/
theorem Rule.Made.decided (belowOne : DrawSource.BelowOne σ) {rule : Rule} (made : rule.Made)
    {call : String → Effect σ π} (calls : ∀ name, (call name).Decided) :
    (rule.effect registry car call).Decided :=
  Rule.records Recordable.decided_inRow (fun _ => List.forall_mem_singleton.mpr trivial)
    (made.draws belowOne) calls

/-- From numbers below one, every draw of the rule of a name chooses something. -/
theorem Registry.call_decided (belowOne : DrawSource.BelowOne σ)
    (made : ∀ entry ∈ registry.rules, entry.2.Made) (chain : List String) (name : String) :
    (registry.call car chain name : Effect σ π).Decided :=
  -- A fault is no draw at all.
  Registry.call_records Recordable.decided_inRow (fun _ => List.forall_mem_singleton.mpr trivial)
    (fun _ => List.forall_mem_singleton.mpr trivial)
    (fun _ => List.forall_mem_singleton.mpr trivial)
    (fun entry member => (made entry member).draws belowOne) chain name

/-- In a registry that was built, every choice is one that can be made. -/
theorem Registry.made_of_build {rules sounds carTypes : Token} {registry : Registry}
    (built : build rules sounds carTypes = .ok registry) :
    ∀ entry ∈ registry.rules, entry.2.Made := by
  -- An entry of the registry was read from a token, and what is read can be made.
  intro entry member
  obtain ⟨reads, _⟩ := build_eq_ok_iff.mp built
  obtain ⟨_, _, _, _, read⟩ := reads.entry_of_mem member
  exact Rule.made_of_ofToken read

namespace Rule

/--
Draws are divided between the alternatives of a choice as its weights are.

Let the choice be one that can be made.
A draw from zero to one chooses an alternative, the one whose threshold it does not pass while it
passes the threshold before. A draw that is no number or above one chooses nothing, and a greater
draw never chooses an earlier alternative.
Of exact numbers, the draws that choose an alternative lie between two bounds that are as far apart
as its weight is of the total, so there are some for each.
From a source of numbers from zero to below one, each choice that an evaluation comes to applies
exactly one alternative, and no draw of the evaluation is recorded that chose nothing. All choices in
rules that were read can be made, those of a registry that was built included.
-/
theorem draws_divided_by_weights :
    (∀ choices, Makes choices →
      let bounds := thresholds (choices.map (·.1))
      let exact := choices.map (·.1.toRat)
      bounds.length = choices.length ∧
      (∀ draw, .zero ≤ draw → draw ≤ .one →
        ∃ index < choices.length, choose? bounds draw = some index) ∧
      (∀ draw index, choose? bounds draw = some index ↔ ∃ inside : index < bounds.length,
        draw ≤ bounds[index] ∧ (index = 0 ∨ bounds[index - 1] < draw)) ∧
      (∀ draw, draw = .nan ∨ .one < draw → choose? bounds draw = none) ∧
      (∀ draw later index other, draw ≤ later → choose? bounds draw = some index →
        choose? bounds later = some other → index ≤ other) ∧
      ∀ index (inside : index < exact.length),
        {draw : ℚ | 0 ≤ draw ∧ choose? (thresholds exact) draw = some index} =
          (if index = 0 then Set.Icc (share exact index) (share exact (index + 1))
            else Set.Ioc (share exact index) (share exact (index + 1))) ∧
        share exact (index + 1) - share exact index = exact[index] / totalWeight exact ∧
        ∃ draw : ℚ, 0 ≤ draw ∧ draw < 1 ∧ choose? (thresholds exact) draw = some index) ∧
    (DrawSource.BelowOne σ → ∀ (registry : Registry) (rule : Rule),
      (∀ entry ∈ registry.rules, Made entry.2) → Made rule → ∀ car : Car,
        (∀ choices, registry.Reached rule (.oneOf choices) →
          ∀ (call : String → Effect σ π) (run : Run σ π),
            ∃ index, ∃ inside : index < choices.length,
            (drawChoice (choices.map (·.1)) run).1 = some index ∧
            (Rule.oneOf choices).effect registry car call run =
              choices[index].2.effect registry car call (drawChoice (choices.map (·.1)) run).2) ∧
        (registry.apply car rule : Effect σ π).Decided) ∧
    (∀ rules sounds carTypes registry, Registry.build rules sounds carTypes = .ok registry →
      ∀ entry ∈ registry.rules, Made entry.2) ∧
    ∀ location token rule, ofToken location token = .ok rule → Made rule := by
  -- What the weights say of a draw comes first, and what sources have to do with it after that.
  refine ⟨?_, ?_, fun _ _ _ _ => Registry.made_of_build, fun _ _ _ => made_of_ofToken⟩
  · intro choices makes bounds exact
    have positive : ∀ weight ∈ exact, 0 < weight := by
      refine List.forall_mem_map.mpr fun choice member => ?_
      obtain ⟨finite, above⟩ := makes.graded.positive choice.1 (List.mem_map_of_mem member)
      exact Binary64.toRat_pos finite above
    refine ⟨by rw [makes.graded.count, List.length_map], fun draw _ => makes.exists_choose?_eq,
      fun draw index => makes.choose?_eq_some_iff, fun draw => makes.choose?_eq_none_iff.mpr,
      fun draw later index other => le_of_choose?, fun index inside => ?_⟩
    exact ⟨setOf_choose?_eq positive inside, sub_eq_of_eq_add' (share_succ inside),
      exists_choose?_eq positive inside⟩
  · intro belowOne registry rule entries made car
    refine ⟨fun choices reached call run => ?_,
      made.decided belowOne fun name => registry.call_decided belowOne entries [] name⟩
    have makes : Makes choices := by
      rcases reached.mem_rules with inside | ⟨entry, member, inside⟩
      · exact made choices inside
      · exact entries entry member choices inside
    exact makes.exists_effect_eq belowOne registry car call run

end Rule

end

/-- A quarter is drawn for horns or bells, one to three, and no draw of a seed chooses nothing. -/
theorem Rule.horns_and_bells_divide_draws :
    let choices : List (Binary64 × Rule) := [(.ofInt 1, .ref "horns"), (.ofInt 3, .ref "bells")]
    let registry : Registry :=
      ⟨[("root", .oneOf choices), ("horns", .allOf []), ("bells", .allOf [])], [], []⟩
    Makes choices ∧ Made (.ref "root") ∧ (∀ entry ∈ registry.rules, Made entry.2) ∧
      DrawSource.BelowOne SeededDraws ∧
      (∃ index < 2, choose? (thresholds (choices.map (·.1))) (.ofRatio 1 4) = some index) ∧
      (registry.apply ⟨"DE6", "L-1"⟩ (.ref "root") : Effect SeededDraws FixedSkins).Decided := by
  -- Each hypothesis is met in turn: the choice, the rules around it, and the numbers of a seed.
  intro choices registry
  obtain ⟨divided, evaluated, _⟩ := draws_divided_by_weights (σ := SeededDraws) (π := FixedSkins)
  have makes : Makes choices :=
    ⟨[.ref "horns", .ref "bells"], some [.ofInt 1, .ofInt 3], choice_eq_ok_iff.mpr
      ⟨_, rfl, List.cons_ne_nil _ _, rfl, by decide +kernel, by decide +kernel, rfl⟩⟩
  have root : Made (.ref "root") := by
    intro others inside
    cases inside
  have entries : ∀ entry ∈ registry.rules, Made entry.2 := by
    have first : Made (.oneOf choices) := by
      intro others inside
      rw [eq_of_partOf_oneOf_refs (by simp [choices]) inside]
      exact makes
    have empty : Made (.allOf []) := by simp [Made]
    simp [registry, first, empty]
  have drawn := (divided choices makes).2.1 (.ofRatio 1 4) (by decide +kernel) (by decide +kernel)
  exact ⟨makes, root, entries, SeededDraws.belowOne, drawn,
    (evaluated SeededDraws.belowOne registry _ entries root _).2⟩

end LocoSounds
