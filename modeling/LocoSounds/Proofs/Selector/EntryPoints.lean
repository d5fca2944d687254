import LocoSounds.Proofs.Evaluation.Reentry
import LocoSounds.Proofs.Selector.Requests

/-! The ways to have the rule of a name evaluated, and that the same comes of each of them. -/

namespace LocoSounds

/-- What comes of an evaluation: sounds or a fault, and what is left to draw from and to look skins
up in. -/
structure Outcome (σ π : Type) where
  result : Except EvaluationFault SoundSet
  draws : σ
  skins : π

section

variable {σ π : Type}

namespace Outcome

/-- What comes of an effect on a run. The sounds count where no fault has ended it. -/
def ofEffect (ended : Option EvaluationFault × Run σ π) : Outcome σ π :=
  ⟨ended.1.elim (.ok ended.2.sounds) .error, ended.2.draws, ended.2.skins⟩

/-- What comes of a selection by a selector. -/
def ofSelection (selected : Except EvaluationFault SoundSet × Selector σ π) : Outcome σ π :=
  ⟨selected.1, selected.2.draws, selected.2.skins⟩

/-- What comes of a rule that a selector applies to a sound set. -/
def ofApplication (applied : Option EvaluationFault × SoundSet × Selector σ π) : Outcome σ π :=
  ⟨applied.1.elim (.ok applied.2.1) .error, applied.2.2.draws, applied.2.2.skins⟩

end Outcome

/-- The run in which a selector fills a sound set. -/
def Selector.start (selector : Selector σ π) (sounds : SoundSet) : Run σ π :=
  ⟨selector.draws, selector.skins, sounds, selector.journal⟩

/-- A selector runs an effect of its active registry. -/
theorem Selector.run_eq {selector : Selector σ π} {registry : Registry}
    (active : selector.registry = some registry) (effect : Registry → Effect σ π)
    (sounds : SoundSet) :
    selector.run effect sounds =
      let (fault, after) := effect registry (selector.start sounds)
      (fault, after.sounds,
        { selector with draws := after.draws, skins := after.skins, journal := after.journal }) := by
  -- The one thing asked of the selector is which registry is active.
  have ready : selector.active = .ok registry := by rw [Selector.active, active]
  rw [Selector.run, ready]
  rfl

/-- The selector's own root stands in for the empty name and for no other. -/
theorem Selector.rootOr_some (selector : Selector σ π) (root : String) :
    selector.rootOr (some root) = if root = "" then selector.root else root := by
  -- The name given is tested for being empty, and nothing else of it counts.
  simp only [rootOr, String.isEmpty_iff]

variable [DrawSource σ] [SkinSource π] {selector : Selector σ π} {registry : Registry}

/-- Of a selection the same comes as of the rule of its root, applied to an empty sound set. -/
theorem Registry.outcome_select (car : Car) (root : String) {run : Run σ π}
    (empty : run.sounds = .empty) :
    Outcome.ofEffect (registry.select car root run) =
      Outcome.ofEffect (registry.applyNamed car root run) := by
  -- A selection does what the root does to no sounds, and there were none to begin with.
  have same : { run with sounds := .empty } = run := by rw [← empty]
  obtain ⟨journal, selected⟩ := registry.select_eq car root run
  rw [selected, same]
  -- The journal, in which the two differ, is no part of an outcome.
  rfl

/-- Of a selection by a selector the same comes as of the rule of the root that it uses. -/
theorem Selector.outcome_select (active : selector.registry = some registry) (car : Car)
    (root : Option String) :
    Outcome.ofSelection (selector.select car root) =
      Outcome.ofEffect (registry.applyNamed car (selector.rootOr root) (selector.start .empty)) := by
  -- The selector starts its active registry on no sounds and passes its outcome on.
  rw [select_eq, run_eq active]
  exact Registry.outcome_select car _ rfl

/-- Of a rule that a selector applies the same comes as of one that its active registry applies. -/
theorem Selector.outcome_apply (active : selector.registry = some registry) (car : Car)
    (root : String) :
    Outcome.ofApplication (selector.apply root car .empty) =
      Outcome.ofEffect (registry.applyNamed car root (selector.start .empty)) := by
  -- The selector starts its active registry on no sounds and passes its outcome on.
  rw [Selector.apply, run_eq active]
  rfl

/--
The same comes of the rule of a name in whichever way it is asked for.

From one selector the rule may be applied to an empty sound set by the selector or by its active
registry, by its name or through a reference, or selected from the registry.
The sounds or the fault are the same each time, and what is left to draw from.
A selection by the selector itself comes to the same, but for the empty name, for which the root of
the selector stands in.
So does the rule that is found under the name, applied by itself. This holds until a rule comes up
again while it is applied, which none does where no rule comes back to itself.
-/
theorem Selector.outcomes_agree (active : selector.registry = some registry) (car : Car)
    (root : String) :
    let start := selector.start .empty
    let outcome := fun name => Outcome.ofEffect (registry.applyNamed car name start)
    Outcome.ofSelection (selector.select car (some root)) =
      outcome (if root = "" then selector.root else root) ∧
    Outcome.ofApplication (selector.apply root car .empty) = outcome root ∧
    Outcome.ofEffect (registry.select car root start) = outcome root ∧
    Outcome.ofEffect (registry.apply car (.ref root) start) = outcome root ∧
    (∀ rule, registry.rule? root = some rule → ¬ Reentered (registry.applyNamed car root start) →
      Outcome.ofEffect (registry.apply car rule start) = outcome root) ∧
    (registry.rules.Acyclic → ¬ Reentered (registry.applyNamed car root start)) := by
  -- Each entry point comes down to the rule of the name, applied by the registry to no sounds.
  intro start outcome
  refine ⟨?_, outcome_apply active car root, Registry.outcome_select car root rfl, rfl,
    fun rule found once => ?_, fun acyclic => Registry.not_reentered acyclic car (.ref root) start⟩
  · rw [outcome_select active, rootOr_some]
  · show Outcome.ofEffect (registry.apply car rule start) =
      Outcome.ofEffect (registry.applyNamed car root start)
    rw [Registry.apply_eq_applyNamed found once]

end

/-- Horns are selected in each way alike, and so is the rule of horns that stands under the name. -/
theorem Selector.outcomes_of_horns_agree :
    let registry : Registry := ⟨[("root", .ref "horns"), ("horns", .allOf [.sound "horn"])],
      [("horn", ⟨"horn", .hornHit, ["a.ogg"], none, none, none, none, none⟩)],
      Car.defaultTypes.map lowercase⟩
    let selector : Selector SeededDraws FixedSkins :=
      ⟨some registry, "root", .ofSeed 1 "horns", ⟨[]⟩, []⟩
    let car : Car := ⟨"DE6", "L-1"⟩
    let start := selector.start .empty
    let outcome := Outcome.ofEffect (registry.applyNamed car "horns" start)
    selector.registry = some registry ∧ registry.rules.Acyclic ∧
      Outcome.ofSelection (selector.select car (some "horns")) = outcome ∧
      Outcome.ofApplication (selector.apply "horns" car .empty) = outcome ∧
      Outcome.ofEffect (registry.apply car (.allOf [.sound "horn"]) start) = outcome := by
  -- The registry was built, so no rule comes back to itself and none comes up again.
  intro registry selector car start outcome
  have resolves : registry.resolve = .ok () :=
    (Registry.build_eq_ok_iff.mp Registry.build_horns).2.2.2
  have acyclic : registry.rules.Acyclic := (Registry.resolve_eq_ok_iff.mp resolves).2
  have active : selector.registry = some registry := rfl
  obtain ⟨selected, applied, _, _, found, once⟩ := outcomes_agree active car "horns"
  exact ⟨active, acyclic, selected, applied, found _ rfl (once acyclic)⟩

/-- A rule under the empty name is applied by that name, but the selector selects its root instead. -/
theorem Selector.empty_name_selects_root :
    let horn : Sound := ⟨"horn", .hornHit, ["a.ogg"], none, none, none, none, none⟩
    let bell : Sound := ⟨"bell", .bell, ["b.ogg"], none, none, none, none, none⟩
    let registry : Registry := ⟨[("root", .sound "horn"), ("", .sound "bell")],
      [("horn", horn), ("bell", bell)], ["de6"]⟩
    let selector : Selector SeededDraws FixedSkins :=
      ⟨some registry, "root", .ofSeed 1 "horns", ⟨[]⟩, []⟩
    let car : Car := ⟨"DE6", "L-1"⟩
    (selector.select car (some "")).1 = .ok (SoundSet.empty.insert .hornHit horn) ∧
      (selector.apply "" car .empty).2.1 = SoundSet.empty.insert .bell bell := by
  -- The selector's root is a horn and the rule of the empty name is a bell, in different slots.
  intro horn bell registry selector car
  have active : selector.registry = some registry := rfl
  -- Each of the two rules is a sound, which goes into its slot at once.
  have applied : ∀ name rule, registry.rule? name = some rule →
      (registry.applyNamed car name : Effect SeededDraws FixedSkins) =
        rule.effect registry car (registry.call car [name]) :=
    fun name rule found => Registry.call_eq found List.not_mem_nil
  constructor
  · show (Outcome.ofSelection (selector.select car (some ""))).result = _
    rw [outcome_select active, rootOr_some, if_pos rfl, applied "root" (.sound "horn") rfl]
    rfl
  · rw [Selector.apply, run_eq active, applied "" (.sound "bell") rfl]
    rfl

end LocoSounds
