import LocoSounds.Proofs.Evaluation.Locality

/-! Rules that come up again: until one does, it does not matter inside of which rules one is. -/

namespace LocoSounds

section

variable {σ π : Type}

/-- An evaluation was ended by a rule that came up again while it was being applied. -/
def Reentered (outcome : Option EvaluationFault × Run σ π) : Prop :=
  ∃ name, outcome.1 = some (.reentered name)

/-- An effect does what another one does, wherever no rule comes up again in that one. -/
def Effect.Follows (effect other : Effect σ π) : Prop :=
  ∀ run, ¬ Reentered (other run) → effect run = other run

namespace Effect.Follows

/-- One effect after the other follows two others in a row where each follows its own. -/
theorem andThen {first second other later : Effect σ π} (firsts : first.Follows other)
    (seconds : second.Follows later) : (first.andThen second).Follows (other.andThen later) := by
  -- The run of the second pair decides how the first one ended.
  intro run once
  unfold Effect.andThen at once ⊢
  cases ended : other run with
  | mk fault next =>
    rw [ended] at once
    cases fault with
    | none =>
      -- The first came to its end, and the second goes on from there.
      have same : first run = (none, next) := by
        rw [firsts run (by rw [ended]; rintro ⟨_, ⟨⟩⟩), ended]
      rw [same]
      exact seconds next once
    | some fault =>
      -- The first was ended by a fault, which is that of both.
      have same : first run = (some fault, next) := by
        rw [firsts run (by rw [ended]; exact once), ended]
      rw [same]

/-- Effects in order follow others where they do one by one. -/
theorem inOrder {effects others : List (Effect σ π)}
    (each : List.Forall₂ Effect.Follows effects others) :
    (effects.foldr .andThen .done : Effect σ π).Follows (others.foldr .andThen .done) := by
  -- By induction along the two lists, from their ends.
  induction each with
  | nil => exact fun _ _ => rfl
  | cons first _ ih => exact first.andThen ih

/-- To test the same condition first changes nothing. -/
theorem guarded [SkinSource π] {effect other : Effect σ π} (inside : effect.Follows other)
    (car : Car) (property : CarProperty) (value : String) :
    (Effect.guarded car property value effect).Follows (.guarded car property value other) := by
  -- Past the same test both effects go on from the same run.
  intro run once
  unfold Effect.guarded at once ⊢
  -- What is found decides alike on both sides, as it does not depend on the effect.
  by_cases holds : (observe car property run).1.any (sameIgnoringCase · value) = true
  · simp only [holds, if_true] at once ⊢
    exact inside _ once
  · simp only [if_neg holds]

end Effect.Follows

variable [DrawSource σ] [SkinSource π] {registry : Registry} {car : Car}

/-- A rule follows itself where the rules that it refers to do. -/
theorem Rule.effect_follows {call again : String → Effect σ π}
    (calls : ∀ name, (call name).Follows (again name)) (rule : Rule) :
    (rule.effect registry car call).Follows (rule.effect registry car again) := by
  -- By induction on the rule, through the way in which each form calls what it refers to.
  induction rule with
  | allOf rules ih =>
    rw [effect, effect, effectOfAll_eq, effectOfAll_eq]
    refine .inOrder (List.forall₂_map_left_iff.mpr (List.forall₂_map_right_iff.mpr ?_))
    exact List.forall₂_same.mpr ih
  | oneOf choices ih =>
    intro run once
    rw [effect_oneOf_eq] at once ⊢
    rw [effect_oneOf_eq]
    -- The draw comes before anything that is referred to.
    cases drawn : drawnChoice? choices run with
    | none => rfl
    | some choice =>
      simp only [drawn] at once
      exact ih choice (mem_of_drawnChoice? drawn) _ once
  | when property value rule ih =>
    rw [effect, effect]
    exact ih.guarded car property value
  | ref name => exact calls name
  | sound name => exact fun _ _ => rfl

/-- To be inside of fewer rules changes nothing until a rule comes up again. -/
theorem Registry.call_follows {chain opened : List String} (fewer : chain ⊆ opened)
    (name : String) :
    (registry.call car chain name : Effect σ π).Follows (registry.call car opened name) := by
  -- Each rule that is entered is one more that both are inside of.
  induction opened, name using Registry.call.induct registry generalizing chain with
  | case1 opened name missing =>
    rw [call_eq_fail missing, call_eq_fail missing]
    exact fun _ _ => rfl
  | case2 opened name rule found again =>
    rw [call_eq_reentered found again]
    exact fun run once => absurd ⟨name, rfl⟩ once
  | case3 opened name rule found fresh ih =>
    have outside : name ∉ chain := fun inside => fresh (fewer inside)
    rw [Registry.call_eq found fresh, Registry.call_eq found outside]
    exact Rule.effect_follows (fun next => ih next (List.cons_subset_cons name fewer)) rule

/-- The rule of a name, applied by itself, does what it does by its name, so long as no rule comes up
again. -/
theorem Registry.apply_eq_applyNamed {root : String} {rule : Rule}
    (found : registry.rule? root = some rule) {run : Run σ π}
    (once : ¬ Reentered (registry.applyNamed car root run)) :
    registry.apply car rule run = registry.applyNamed car root run := by
  -- By its name one is inside of the rule itself, and otherwise of no rule.
  have named : (registry.applyNamed car root : Effect σ π) =
      rule.effect registry car (registry.call car [root]) :=
    Registry.call_eq found List.not_mem_nil
  rw [named] at once ⊢
  exact Rule.effect_follows (fun next => registry.call_follows (List.nil_subset _) next) rule
    run once

/-- A walk follows every reference, so it does not end because a rule came up again. -/
theorem Registry.Walk.not_reentered {chain : List String} {rule : Rule} {run : Run σ π}
    {outcome : Option EvaluationFault × Run σ π} {moments : List (List String)}
    (walk : registry.Walk car chain rule run outcome moments) : ¬ Reentered outcome := by
  -- By induction on the walk, whose steps never come to the fault of a rule that is open.
  induction walk with
  | nil | nothing | fails | undefined => rintro ⟨_, ⟨⟩⟩
  | ended _ ih | chosen _ _ ih | holds _ _ ih | ref _ _ ih | cons _ _ _ ih => exact ih
  | @sound _ name run =>
    unfold Effect.ofSound
    cases registry.sound? name <;> rintro ⟨_, ⟨⟩⟩

/-- Where no rule comes back to itself, none comes up again. -/
theorem Registry.not_reentered (acyclic : registry.rules.Acyclic) (car : Car) (rule : Rule)
    (run : Run σ π) : ¬ Reentered (registry.apply car rule run) := by
  -- The walk that applying the rule makes never comes to that fault.
  obtain ⟨moments, walk, _⟩ := exists_walk_apply acyclic car rule run
  exact walk.not_reentered

end

end LocoSounds
