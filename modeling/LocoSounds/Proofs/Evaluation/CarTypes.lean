import LocoSounds.Proofs.Evaluation.Observation

/-! Car types are compared in evaluation as they were when the registry was built. -/

namespace LocoSounds

section

variable {σ π : Type} [SkinSource π]

/-- A condition on the type does nothing of its own for a car that meets it. -/
theorem Effect.guarded_carType_of_eq {car : Car} {value : String}
    (same : lowercase car.carType = lowercase value) (effect : Effect σ π) :
    Effect.guarded car .carType value effect = effect := by
  -- The test looks at the type and nothing else, so it comes out alike in every run.
  funext run
  refine guarded_of_meets ?_ effect
  exact same

/-- A condition on the type lets nothing be done for a car that does not meet it. -/
theorem Effect.guarded_carType_of_ne {car : Car} {value : String}
    (differ : lowercase car.carType ≠ lowercase value) (effect : Effect σ π) :
    Effect.guarded car .carType value effect = .done := by
  -- The test fails in every run, and the type is read without a lookup.
  funext run
  refine guarded_of_not_meets ?_ effect
  exact differ

variable [DrawSource σ] {registry : Registry}

/-- For a car that meets no condition on the type that is reached, these conditions may as well be
taken out. -/
theorem Registry.apply_without_carTypes {car : Car} {rule : Rule}
    (differ : ∀ value inner, registry.Reached rule (.when .carType value inner) →
      lowercase car.carType ≠ lowercase value) (run : Run σ π) :
    registry.apply car rule run =
      (registry.without [.carType]).apply car (rule.without [.carType]) run := by
  -- Dropping a condition that always fails is the case of equal runs of what holds for all drops.
  have conditions : ∀ property value inner, registry.Reached rule (.when property value inner) →
      DecidesAlike (π := π) [.carType] (· = ·) car car property value := by
    intro property value inner reached
    refine decidesAlike_of_eq fun drops source => ?_
    -- Only the type is dropped, and to test it nothing is looked up.
    obtain rfl : property = .carType := by simpa using drops
    exact ⟨differ value inner reached, rfl⟩
  obtain ⟨fault, after⟩ := registry.apply_alike_without (σ := σ) Sound.keeps_eq rule conditions
    run run ⟨rfl, rfl, rfl, rfl⟩
  refine Prod.ext fault ?_
  rw [after.eq, after.sounds]

/--
Building a registry and applying its rules agree on car types.

Each condition on the type in a registry that was built names a listed type, and lets the rule under
it be applied to every car of that type.
To a car of a type that is not listed none of these conditions lets anything be applied.
Whatever root is applied to it, all comes out as if the conditions had been taken out of the rules:
the fault if there is one, the draws, the sounds in their order, the lookups and the journal.
-/
theorem Registry.carTypes_agree_of_build {rules sounds carTypes : Token} {listed : List String}
    (lists : listedCarTypes? carTypes = some listed)
    (built : build rules sounds carTypes = .ok registry) :
    (∀ entry ∈ registry.rules, ∀ value inner, (Rule.when .carType value inner).PartOf entry.2 →
      ∃ type ∈ listed, ∀ car : Car, car.carType = type →
        ∀ effect : Effect σ π, Effect.guarded car .carType value effect = effect) ∧
    ∀ car : Car, (∀ type ∈ listed, lowercase car.carType ≠ lowercase type) →
      (∀ entry ∈ registry.rules, ∀ value inner, (Rule.when .carType value inner).PartOf entry.2 →
        ∀ effect : Effect σ π, Effect.guarded car .carType value effect = .done) ∧
      ∀ root (run : Run σ π), registry.applyNamed car root run =
        (registry.without [.carType]).applyNamed car root run := by
  -- A registry that was built has only listed types in its conditions, up to letter case.
  obtain ⟨_, _, ⟨others, again, known⟩, resolved⟩ := build_eq_ok_iff.mp built
  obtain rfl : listed = others := Option.some.inj (lists.symm.trans again)
  have coherent := (resolve_eq_ok_iff_coherent known).mp resolved
  refine ⟨fun entry member value inner inside => ?_, fun car unlisted => ?_⟩
  · obtain ⟨type, listedType, same⟩ := coherent.carTypes entry member value inner inside
    refine ⟨type, listedType, ?_⟩
    rintro car rfl effect
    exact Effect.guarded_carType_of_eq same.symm effect
  · -- A value that the car had would be one of the listed types.
    have differ : ∀ entry ∈ registry.rules, ∀ value inner,
        (Rule.when .carType value inner).PartOf entry.2 →
          lowercase car.carType ≠ lowercase value := by
      intro entry member value inner inside met
      obtain ⟨type, listedType, same⟩ := coherent.carTypes entry member value inner inside
      exact unlisted type listedType (met.trans same)
    refine ⟨fun entry member value inner inside effect => ?_, fun root run => ?_⟩
    · exact Effect.guarded_carType_of_ne (differ entry member value inner inside) effect
    · refine apply_without_carTypes (fun value inner reached => ?_) run
      obtain inside | ⟨entry, member, inside⟩ := reached.mem_rules
      · cases inside
      · exact differ entry member value inner inside

end

/-- The registry of one rule that is meant for shunters and of the horn that it selects. -/
theorem Registry.build_shunter :
    build
      (.mapping [(.text "root", .mapping [
        (.text "type", .text "If"), (.text "property", .text "CarType"),
        (.text "value", .text "Shunter"),
        (.text "rule", .mapping [(.text "type", .text "Sound"), (.text "name", .text "horn")])])])
      (.mapping [
        (.text "horn",
          .mapping [(.text "type", .text "HornHit"), (.text "filename", .text "a.ogg")])])
      (.list [.text "SHUNTER"]) =
    .ok ⟨[("root", .when .carType "Shunter" (.sound "horn"))],
      [("horn", ⟨"horn", .hornHit, ["a.ogg"], none, none, none, none, none⟩)],
      [lowercase "SHUNTER"]⟩ := by
  -- What was read is given part by part, and what is left is that it is coherent.
  rw [build_eq_ok_iff]
  refine ⟨.mapping (.cons ⟨rfl, rfl⟩ .nil),
    .mapping (.cons ⟨rfl, by decide +kernel⟩ .nil), ⟨["SHUNTER"], rfl, rfl⟩, ?_⟩
  have same : lowercase "Shunter" = lowercase "SHUNTER" := by decide +kernel
  have listed : [lowercase "SHUNTER"] = ["SHUNTER"].map lowercase := rfl
  rw [resolve_eq_ok_iff_coherent listed]
  refine ⟨by simp, by simp, by simp [same], ?_⟩
  -- The rule refers to no other, so the search ends at once.
  rw [← NamedRules.findCycle?_eq_none_iff]
  simp [NamedRules.findCycle?, NamedRules.searchFrom, NamedRules.search, NamedRules.refsOf,
    NamedRules.names, Rule.refs]

/-- A shunter meets the condition that is meant for it, and to a railbus the rule does what it does
without the condition. -/
theorem Registry.shunter_meets_listed :
    let rule : Rule := .when .carType "Shunter" (.sound "horn")
    let registry : Registry := ⟨[("root", rule)],
      [("horn", ⟨"horn", .hornHit, ["a.ogg"], none, none, none, none, none⟩)],
      [lowercase "SHUNTER"]⟩
    (∀ effect : Effect SeededDraws FixedSkins,
      Effect.guarded ⟨"SHUNTER", "L-1"⟩ .carType "Shunter" effect = effect) ∧
    (∀ effect : Effect SeededDraws FixedSkins,
      Effect.guarded ⟨"Railbus", "L-2"⟩ .carType "Shunter" effect = .done) ∧
    ∀ run : Run SeededDraws FixedSkins,
      registry.applyNamed ⟨"Railbus", "L-2"⟩ "root" run =
        (registry.without [.carType]).applyNamed ⟨"Railbus", "L-2"⟩ "root" run := by
  -- The one listed type is met by the first car and not by the second.
  intro rule registry
  have differ : lowercase "Railbus" ≠ lowercase "SHUNTER" := by decide +kernel
  have root : ("root", rule) ∈ registry.rules := .head _
  have lists : listedCarTypes? (.list [.text "SHUNTER"]) = some ["SHUNTER"] := rfl
  obtain ⟨meets, fails⟩ :=
    carTypes_agree_of_build (σ := SeededDraws) (π := FixedSkins) lists build_shunter
  obtain ⟨type, listed, passes⟩ := meets _ root "Shunter" _ .self
  obtain rfl : type = "SHUNTER" := by simpa using listed
  obtain ⟨idle, same⟩ := fails ⟨"Railbus", "L-2"⟩ (by simpa using differ)
  exact ⟨passes ⟨"SHUNTER", "L-1"⟩ rfl, idle _ root "Shunter" _ .self, same "root"⟩

end LocoSounds
