import LocoSounds.Proofs.Evaluation.Simulation

/-! What evaluation can tell of a car: its type and its skin, but for the case of letters. -/

namespace LocoSounds

/-- The run with other skins to look up. -/
def Run.wearing {σ π ρ : Type} (run : Run σ π) (skins : ρ) : Run σ ρ :=
  ⟨run.draws, skins, run.sounds, run.journal⟩

/-- Two evaluations come to the same: they end alike, after the same draws, with the same sounds in
the same order and the same journal. -/
structure SameOutcome {σ π ρ : Type} (outcome : Option EvaluationFault × Run σ π)
    (other : Option EvaluationFault × Run σ ρ) : Prop where
  fault : outcome.1 = other.1
  draws : outcome.2.draws = other.2.draws
  sounds : outcome.2.sounds = other.2.sounds
  journal : outcome.2.journal = other.2.journal

section

variable {σ π ρ : Type}

/-- A sound put into its slot in two equal sets leaves them equal. -/
theorem Sound.keeps_eq : Sound.Keeps (· = ·) := by
  -- Equal sets stay equal when the same is done to both.
  rintro sound set _ rfl
  rfl

/-- Effects that do alike but for skins come to the same from one run. -/
theorem Effect.Alike.sameOutcome {worn : π → ρ → Prop} {effect : Effect σ π} {other : Effect σ ρ}
    (alike : Effect.Alike (Run.Beside worn (· = ·)) effect other) {run : Run σ π} {skins : ρ}
    (start : worn run.skins skins) : SameOutcome (effect run) (other (run.wearing skins)) := by
  -- Runs that differ in skins alone stand beside each other, so the effects keep them so.
  obtain ⟨fault, after⟩ := alike run (run.wearing skins) ⟨rfl, start, rfl, rfl⟩
  exact ⟨fault, after.draws, after.sounds, after.journal⟩

/-- Two cars whose types and skins agree but for the case of letters have the same values. -/
theorem Car.meets_congr {car other : Car} {skin found : Option String}
    (types : lowercase car.carType = lowercase other.carType)
    (skins : skin.map lowercase = found.map lowercase) (property : CarProperty) (value : String) :
    car.Meets skin property value ↔ other.Meets found property value := by
  -- The two values of a car are compared in small letters, where these agree.
  cases property with
  | carType => rw [Car.Meets, Car.Meets, types]
  | skinName => rw [Car.Meets, Car.Meets, skins]

variable [SkinSource π] [SkinSource ρ] {car other : Car}

/-- A condition on the type decides alike for cars whose types agree, whatever their skins are. -/
theorem decidesAlike_carType (types : lowercase car.carType = lowercase other.carType)
    {dropped : List CarProperty} (stays : .carType ∉ dropped) {worn : π → ρ → Prop}
    (value : String) : DecidesAlike dropped worn car other .carType value where
  idle drops := absurd drops stays
  kept _ _ _ near := ⟨by rw [Car.Meets, Car.Meets, types], near⟩

/-- Every condition decides alike where each source knows one skin of its car and these agree. -/
theorem decidesAlike_of_answers (types : lowercase car.carType = lowercase other.carType)
    {skin found : Option String} (skins : skin.map lowercase = found.map lowercase)
    (property : CarProperty) (value : String) :
    DecidesAlike [] (fun (source : π) (beside : ρ) =>
      SkinSource.Answers source car.carId skin ∧ SkinSource.Answers beside other.carId found)
      car other property value where
  idle := nofun
  kept := by
    -- Nothing is dropped, so each test has to come out alike and to keep the answers of both.
    rintro _ source beside ⟨answers, replies⟩
    refine ⟨?_, answers.look property, replies.look property⟩
    -- The skin looked up first is the one that the source always answers with.
    have first : (SkinSource.lookup source car.carId).1 = skin := answers 0
    have second : (SkinSource.lookup beside other.carId).1 = found := replies 0
    rw [first, second]
    exact Car.meets_congr types skins property value

/-- Without conditions on skins those on types decide alike, where the first car has no skin. -/
theorem decidesAlike_of_no_skin (types : lowercase car.carType = lowercase other.carType)
    (property : CarProperty) (value : String) :
    DecidesAlike [.skinName] (fun (source : π) (_ : ρ) =>
      SkinSource.Answers source car.carId none) car other property value := by
  -- A test of the skin always fails for the first car, so it may be dropped for the other.
  cases property with
  | carType => exact decidesAlike_carType types (by decide) value
  | skinName =>
    refine ⟨fun _ source _ answers => ⟨?_, answers.look .skinName⟩,
      fun kept => absurd (.head _) kept⟩
    have first : (SkinSource.lookup source car.carId).1 = none := answers 0
    rw [first]
    exact nofun

variable [DrawSource σ] {registry : Registry} {rule : Rule}

/-- A rule comes to the same for two cars whose types agree, where each source of skins always gives
one skin of its car, or none, and these agree. -/
theorem Registry.sameOutcome_of_answers (types : lowercase car.carType = lowercase other.carType)
    {run : Run σ π} {skins : ρ} {skin found : Option String}
    (answers : SkinSource.Answers run.skins car.carId skin)
    (replies : SkinSource.Answers skins other.carId found)
    (same : skin.map lowercase = found.map lowercase) :
    SameOutcome (registry.apply car rule run) (registry.apply other rule (run.wearing skins)) := by
  -- With nothing taken out, every condition that is reached decides alike.
  have alike := registry.apply_alike_without (σ := σ) (π := π) (ρ := ρ) Sound.keeps_eq rule
    fun property value _ _ => decidesAlike_of_answers types same property value
  rw [without_nil, Rule.without_nil] at alike
  exact alike.sameOutcome ⟨answers, replies⟩

/-- A rule comes to the same for a car without a skin as it does for one whose type agrees, with the
conditions on skins taken out. -/
theorem Registry.sameOutcome_without_skins
    (types : lowercase car.carType = lowercase other.carType) {run : Run σ π} (skins : ρ)
    (answers : SkinSource.Answers run.skins car.carId none) :
    SameOutcome (registry.apply car rule run)
      ((registry.without [.skinName]).apply other (rule.without [.skinName])
        (run.wearing skins)) := by
  -- Dropped conditions are those on skins, which the first car never meets.
  have alike := registry.apply_alike_without (σ := σ) (π := π) (ρ := ρ) Sound.keeps_eq rule
    fun property value _ _ => decidesAlike_of_no_skin types property value
  exact alike.sameOutcome answers

/-- A rule from which no condition on skins is reached comes to the same for cars whose types
agree, whatever their skins are. -/
theorem Registry.sameOutcome_of_not_reached
    (types : lowercase car.carType = lowercase other.carType) {run : Run σ π} (skins : ρ)
    (none : ∀ value inner, ¬ registry.Reached rule (.when .skinName value inner)) :
    SameOutcome (registry.apply car rule run) (registry.apply other rule (run.wearing skins)) := by
  -- Only conditions on types are left, and those ask no source.
  have conditions : ∀ property value inner, registry.Reached rule (.when property value inner) →
      DecidesAlike [] (fun (_ : π) (_ : ρ) => True) car other property value := by
    intro property value inner reached
    cases property with
    | carType => exact decidesAlike_carType types List.not_mem_nil value
    | skinName => exact absurd reached (none value inner)
  have alike := registry.apply_alike_without (σ := σ) Sound.keeps_eq rule conditions
  rw [without_nil, Rule.without_nil] at alike
  exact alike.sameOutcome trivial

/--
Evaluation can tell nothing of a car but its type and its skin, and not the case of their letters.

Two cars whose types agree and whose skins agree, or that have none, come to the same with whatever
rule: the fault if there is one, the draws, the sounds in their order and the journal.
Where a car has no skin, that is also what comes of it without a source of skins, and with all
conditions on skins taken out of the rules.
Where no such condition is reached, neither the source nor the id of the car has a part in it.
-/
theorem Registry.sameOutcome_of_observations (registry : Registry) (rule : Rule) (car other : Car)
    (run : Run σ π) (skins : ρ) (types : lowercase car.carType = lowercase other.carType) :
    (∀ skin found, SkinSource.Answers run.skins car.carId skin →
      SkinSource.Answers skins other.carId found → skin.map lowercase = found.map lowercase →
      SameOutcome (registry.apply car rule run) (registry.apply other rule (run.wearing skins))) ∧
    (SkinSource.Answers run.skins car.carId none →
      SameOutcome (registry.apply car rule run)
        (registry.apply other rule (run.wearing (none : Option ρ))) ∧
      SameOutcome (registry.apply car rule run)
        ((registry.without [.skinName]).apply other (rule.without [.skinName])
          (run.wearing skins))) ∧
    ((∀ value inner, ¬ registry.Reached rule (.when .skinName value inner)) →
      SameOutcome (registry.apply car rule run)
        (registry.apply other rule (run.wearing skins))) := by
  -- Each part is a case of rules that do alike where the conditions in them decide alike.
  refine ⟨fun skin found answers replies same => ?_, fun answers => ⟨?_, ?_⟩, fun none => ?_⟩
  · exact sameOutcome_of_answers types answers replies same
  · exact sameOutcome_of_answers types answers (SkinSource.answers_none _) rfl
  · exact sameOutcome_without_skins types skins answers
  · exact sameOutcome_of_not_reached types skins none

end

/-- Cars that are blue in capitals and in small letters come to the same, and one without a skin to
what is left without the condition. Where there is no condition, skins have no part in it. -/
theorem Registry.sameOutcome_of_blue_cars :
    let horn : String × Sound :=
      ("horn", ⟨"horn", .hornHit, ["a.ogg"], none, none, none, none, none⟩)
    let registry : Registry := ⟨
      [("root", .oneOf [(.one, .ref "blue")]), ("blue", .when .skinName "Blue" (.sound "horn"))],
      [horn], ["de6"]⟩
    let plain : Registry := ⟨[("root", .allOf [.sound "horn"])], [horn], ["de6"]⟩
    let run : Run SeededDraws FixedSkins := ⟨.ofSeed 1 "horns", ⟨[("L-1", "BLUE")]⟩, .empty, []⟩
    let skins : FixedSkins := ⟨[("L-2", "blue")]⟩
    SameOutcome (registry.apply ⟨"DE6", "L-1"⟩ (.ref "root") run)
      (registry.apply ⟨"de6", "L-2"⟩ (.ref "root") (run.wearing skins)) ∧
    SameOutcome (registry.apply ⟨"DE6", "L-3"⟩ (.ref "root") run)
      ((registry.without [.skinName]).apply ⟨"de6", "L-2"⟩ (.ref "root") (run.wearing skins)) ∧
    SameOutcome (plain.apply ⟨"DE6", "L-1"⟩ (.ref "root") run)
      (plain.apply ⟨"de6", "L-3"⟩ (.ref "root") (run.wearing skins)) := by
  -- Each of the three parts is met by cars of its own.
  intro horn registry plain run skins
  have types : lowercase "DE6" = lowercase "de6" := by decide +kernel
  have blue : lowercase "BLUE" = lowercase "blue" := by decide +kernel
  -- The source gives the first car its skin, and nothing to the third.
  have first : SkinSource.Answers run.skins "L-1" (some "BLUE") :=
    SkinSource.answers_fixedSkins run.skins "L-1"
  have second : SkinSource.Answers skins "L-2" (some "blue") :=
    SkinSource.answers_fixedSkins skins "L-2"
  have third : SkinSource.Answers run.skins "L-3" none :=
    SkinSource.answers_fixedSkins run.skins "L-3"
  have unconditional : ∀ value inner,
      ¬ plain.Reached (.ref "root") (.when .skinName value inner) := by
    intro value inner reached
    have inside := reached.mem_rules
    simp [plain] at inside
  obtain ⟨alike, _⟩ := sameOutcome_of_observations registry (.ref "root") ⟨"DE6", "L-1"⟩
    ⟨"de6", "L-2"⟩ run skins types
  obtain ⟨_, skinless, _⟩ := sameOutcome_of_observations registry (.ref "root") ⟨"DE6", "L-3"⟩
    ⟨"de6", "L-2"⟩ run skins types
  obtain ⟨_, _, unasked⟩ := sameOutcome_of_observations plain (.ref "root") ⟨"DE6", "L-1"⟩
    ⟨"de6", "L-3"⟩ run skins types
  exact ⟨alike _ _ first second (congrArg some blue), (skinless third).2, unasked unconditional⟩

end LocoSounds
