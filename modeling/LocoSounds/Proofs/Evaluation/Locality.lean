import LocoSounds.Proofs.Evaluation.Walk

/-! Evaluation reads nothing but what references lead to from the root. -/

namespace LocoSounds

/-- References lead from a name to another one in any number of steps, or it is that name itself. -/
def NamedRules.Reaches (rules : NamedRules) (name other : String) : Prop :=
  Relation.ReflTransGen (fun name other => other ∈ rules.refsOf name) name other

/-- Two registries have the same rule under each name that is reached from a root, and the same sound
under each name of a sound in those rules. -/
structure Registry.AgreesFrom (root : String) (registry other : Registry) : Prop where
  rules : ∀ name, registry.rules.Reaches root name → registry.rule? name = other.rule? name
  sounds : ∀ name rule, registry.rules.Reaches root name → registry.rule? name = some rule →
    ∀ sound, (Rule.sound sound).PartOf rule → registry.sound? sound = other.sound? sound

/-- What a reached rule refers to is reached as well. -/
theorem NamedRules.Reaches.follow {rules : NamedRules} {root name : String} {rule : Rule}
    (reached : rules.Reaches root name) (found : rules.lookup name = some rule) {next : String}
    (inside : (Rule.ref next).PartOf rule) : rules.Reaches root next := by
  -- The reference is one more step on the way.
  refine reached.tail ?_
  rw [refsOf, found]
  exact Rule.mem_refs_iff.mpr inside

section

variable {σ π : Type} [DrawSource σ] [SkinSource π] {registry other : Registry} {car : Car}

/-- A rule has the same effect in two registries that have the same sounds for it, where what it
refers to has the same effect. -/
theorem Rule.effect_congr {rule : Rule} {call again : String → Effect σ π}
    (calls : ∀ name, (Rule.ref name).PartOf rule → call name = again name)
    (sounds : ∀ name, (Rule.sound name).PartOf rule →
      registry.sound? name = other.sound? name) :
    rule.effect registry car call = rule.effect other car again := by
  -- The tree is the same on both sides, so only its references and sounds are looked up.
  induction rule with
  | allOf rules ih =>
    have each : ∀ rule ∈ rules,
        rule.effect registry car call = rule.effect other car again := fun rule member =>
      ih rule member (fun name inside => calls name (.allOf member inside))
        fun name inside => sounds name (.allOf member inside)
    rw [effect, effect, effectOfAll_eq, effectOfAll_eq, List.map_congr_left each]
  | oneOf choices ih =>
    funext run
    rw [effect_oneOf_eq, effect_oneOf_eq]
    cases drawn : drawnChoice? choices run with
    | none => rfl
    | some choice =>
      -- Both draw the same alternative, as the draw depends on the weights alone.
      have member := mem_of_drawnChoice? drawn
      have same := ih choice member (fun name inside => calls name (.oneOf member inside))
        fun name inside => sounds name (.oneOf member inside)
      simp only [same]
  | when property value rule ih =>
    have inside : rule.effect registry car call = rule.effect other car again :=
      ih (fun name inside => calls name (.when inside)) fun name inside => sounds name (.when inside)
    rw [effect, effect, inside]
  | ref name => exact calls name .self
  | sound name =>
    rw [effect, effect, Effect.ofSound, Effect.ofSound, sounds name .self]

/-- A rule that is open already is not entered again. -/
theorem Registry.call_eq_reentered {chain : List String} {name : String} {rule : Rule}
    (found : registry.rule? name = some rule) (opened : name ∈ chain) :
    (registry.call car chain name : Effect σ π) = .fail (.reentered name) (.ruleReentered name) := by
  -- The name is defined and stands in the chain, so the second way out is taken.
  rw [call]
  split
  · simp_all
  · rw [dif_pos opened]

/-- The rules of a reached name have the same effect in two registries that agree from the root. -/
theorem Registry.AgreesFrom.call_eq {root : String} (agrees : AgreesFrom root registry other)
    (chain : List String) (name : String) (reached : registry.rules.Reaches root name) :
    (registry.call car chain name : Effect σ π) = other.call car chain name := by
  -- Each rule entered leaves fewer that are not open, and those entered from it are reached as well.
  induction chain, name using Registry.call.induct registry with
  | case1 chain name missing =>
    have absent : other.rule? name = none := agrees.rules name reached ▸ missing
    rw [call_eq_fail missing, call_eq_fail absent]
  | case2 chain name rule found opened =>
    have again : other.rule? name = some rule := agrees.rules name reached ▸ found
    rw [call_eq_reentered found opened, call_eq_reentered again opened]
  | case3 chain name rule found fresh ih =>
    have again : other.rule? name = some rule := agrees.rules name reached ▸ found
    rw [Registry.call_eq found fresh, Registry.call_eq again fresh]
    exact Rule.effect_congr (fun next inside => ih next (reached.follow found inside))
      (agrees.sounds name rule reached found)

/--
Evaluation depends on nothing but what is reached from the root.

Two registries that agree from a root do the same for it, whatever car, draws, skins and sounds.
The slots filled, their order, the numbers drawn and the journal are the same.
Neither the other rules and sounds nor the known car types have a part in it.
-/
theorem Registry.applyNamed_eq_of_agreesFrom {root : String}
    (agrees : AgreesFrom root registry other) (car : Car) (run : Run σ π) :
    registry.applyNamed car root run = other.applyNamed car root run := by
  -- To apply a root by its name is to call it with no rule open, which the registries do alike.
  have same : (registry.call car [] root : Effect σ π) = other.call car [] root :=
    agrees.call_eq [] root .refl
  rw [applyNamed, applyNamed, apply, apply, Rule.effect, Rule.effect, same]

end

/-- Bells beside the horns, and a car type more, change nothing for a root that leads to horns. -/
theorem Registry.applyNamed_root_beside_bells :
    let root : Rule := .oneOf [(.one, .ref "horns"), (.one, .ref "horns")]
    let horns : Rule := .when .carType "DE6" (.sound "horn")
    let horn : Sound := ⟨"horn", .hornHit, ["a.ogg"], none, none, none, none, none⟩
    let bell : Sound := ⟨"bell", .bell, ["b.ogg"], none, none, none, none, none⟩
    let registry : Registry := ⟨[("root", root), ("horns", horns)], [("horn", horn)], ["de6"]⟩
    let other : Registry := ⟨[("bells", .sound "bell"), ("horns", horns), ("root", root)],
      [("bell", bell), ("horn", horn)], ["de6", "dh4"]⟩
    AgreesFrom "root" registry other ∧ ∀ run : Run SeededDraws FixedSkins,
      registry.applyNamed ⟨"DE6", "L-1"⟩ "root" run = other.applyNamed ⟨"DE6", "L-1"⟩ "root" run := by
  -- Horns are all that the root leads to, and both registries have the same rule for them.
  intro root horns horn bell registry other
  -- From the root there is a way to the horns, and none from those.
  have reached : ∀ name, registry.rules.Reaches "root" name → name = "root" ∨ name = "horns" := by
    intro name way
    induction way with
    | refl => exact .inl rfl
    | tail _ step ih =>
      rcases ih with rfl | rfl
      · exact .inr (by simpa [registry, root, NamedRules.refsOf, List.lookup_cons, Rule.refs,
          Rule.refsOfChoices] using step)
      · simp [registry, horns, NamedRules.refsOf, List.lookup_cons, Rule.refs] at step
  have agrees : AgreesFrom "root" registry other := by
    constructor
    · intro name way
      rcases reached name way with rfl | rfl <;> rfl
    · intro name rule way found sound inside
      rcases reached name way with rfl | rfl <;> cases found
      · simp [root] at inside
      · obtain rfl : sound = "horn" := by simpa [horns] using inside
        rfl
  exact ⟨agrees, fun run => applyNamed_eq_of_agreesFrom agrees ⟨"DE6", "L-1"⟩ run⟩

end LocoSounds
