import LocoSounds.Proofs.Rule.References
import LocoSounds.Proofs.Success
import LocoSounds.Registry.Resolution

/-! What it takes for a rule, and for all rules of a registry, to be resolved. -/

namespace LocoSounds

/-- Every name in a rule stands for something in a registry, and every car type in it is known. -/
structure Registry.Resolves (registry : Registry) (rule : Rule) : Prop where
  refs : ∀ name, (Rule.ref name).PartOf rule → name ∈ registry.rules.names
  sounds : ∀ name, (Rule.sound name).PartOf rule → name ∈ registry.sounds.map (·.1)
  carTypes : ∀ value inner, (Rule.when .carType value inner).PartOf rule →
    lowercase value ∈ registry.carTypes

namespace Registry

/-- A rule is found under each defined name and under no other. -/
theorem rule?_isSome_iff {registry : Registry} {name : String} :
    (registry.rule? name).isSome ↔ name ∈ registry.rules.names := by
  -- The names are the keys that the lookup goes by.
  rw [NamedRules.mem_names_iff, ← Option.isSome_iff_exists]
  rfl

/-- A rule found under a name stands in the registry with that name. -/
theorem mem_rules_of_rule? {registry : Registry} {name : String} {rule : Rule}
    (found : registry.rule? name = some rule) : (name, rule) ∈ registry.rules :=
  mem_of_lookup found

/-- A sound is found under each name of a sound and under no other. -/
theorem sound?_isSome_iff {registry : Registry} {name : String} :
    (registry.sound? name).isSome ↔ name ∈ registry.sounds.map (·.1) := by
  -- The names are the keys that the lookup goes by.
  rw [sound?, List.lookup_isSome_iff, List.mem_map]
  exact exists_congr fun entry => and_congr_right fun _ => by rw [beq_iff_eq, eq_comm]

/-- What resolves as a whole resolves in each of its parts. -/
theorem Resolves.part {registry : Registry} {part rule : Rule} (resolves : registry.Resolves rule)
    (inside : ∀ {inner : Rule}, inner.PartOf part → inner.PartOf rule) :
    registry.Resolves part where
  refs name found := resolves.refs name (inside found)
  sounds name found := resolves.sounds name (inside found)
  carTypes value inner found := resolves.carTypes value inner (inside found)

/-- Rules in order resolve where each of them does. -/
theorem resolves_allOf_iff {registry : Registry} {rules : List Rule} :
    registry.Resolves (.allOf rules) ↔ ∀ rule ∈ rules, registry.Resolves rule := by
  -- What stands in the list stands in one of its rules, as the list is no leaf itself.
  constructor
  · intro resolves rule member
    exact resolves.part (.allOf member)
  · intro each
    constructor <;> simp only [Rule.partOf_allOf_iff, reduceCtorEq, false_or]
    · rintro name ⟨rule, member, found⟩
      exact (each rule member).refs name found
    · rintro name ⟨rule, member, found⟩
      exact (each rule member).sounds name found
    · rintro value inner ⟨rule, member, found⟩
      exact (each rule member).carTypes value inner found

/-- Alternatives resolve where each of them does. -/
theorem resolves_oneOf_iff {registry : Registry} {choices : List (Binary64 × Rule)} :
    registry.Resolves (.oneOf choices) ↔ ∀ choice ∈ choices, registry.Resolves choice.2 := by
  -- What stands in the choice stands in one of its alternatives, as the choice is no leaf itself.
  constructor
  · intro resolves choice member
    exact resolves.part (.oneOf member)
  · intro each
    constructor <;> simp only [Rule.partOf_oneOf_iff, reduceCtorEq, false_or]
    · rintro name ⟨choice, member, found⟩
      exact (each choice member).refs name found
    · rintro name ⟨choice, member, found⟩
      exact (each choice member).sounds name found
    · rintro value inner ⟨choice, member, found⟩
      exact (each choice member).carTypes value inner found

/-- A condition resolves where the rule under it does and any car type that it asks for is known. -/
theorem resolves_when_iff {registry : Registry} {property : CarProperty} {value : String}
    {rule : Rule} : registry.Resolves (.when property value rule) ↔
      (property = .carType → lowercase value ∈ registry.carTypes) ∧ registry.Resolves rule := by
  -- The condition asks for its own type, and the rest stands in the rule under it.
  constructor
  · intro resolves
    refine ⟨?_, resolves.part .when⟩
    rintro rfl
    exact resolves.carTypes value rule .self
  · rintro ⟨known, resolves⟩
    constructor <;> simp only [Rule.partOf_when_iff, reduceCtorEq, false_or]
    · exact resolves.refs
    · exact resolves.sounds
    · rintro other inner (same | found)
      · cases same
        exact known rfl
      · exact resolves.carTypes other inner found

/-- A reference resolves where its name is defined. -/
theorem resolves_ref_iff {registry : Registry} {name : String} :
    registry.Resolves (.ref name) ↔ name ∈ registry.rules.names := by
  -- A reference has no part but itself.
  constructor
  · intro resolves
    exact resolves.refs name .self
  · intro defined
    constructor <;> simp [defined]

/-- A sound resolves where there is one of its name. -/
theorem resolves_sound_iff {registry : Registry} {name : String} :
    registry.Resolves (.sound name) ↔ name ∈ registry.sounds.map (·.1) := by
  -- A sound has no part but itself.
  constructor
  · intro resolves
    exact resolves.sounds name .self
  · intro defined
    constructor <;> simp at defined ⊢
    exact defined

end Registry

namespace Rule

/-- Rules of a list pass one after the other where each passes wherever it stands. -/
theorem resolveAll_eq_ok_iff {registry : Registry} {rules : List Rule} {location : Location}
    {position : Nat} (each : ∀ rule ∈ rules, ∀ location,
      rule.resolve registry location = .ok () ↔ registry.Resolves rule) :
    resolveAll registry location position rules = .ok () ↔
      ∀ rule ∈ rules, registry.Resolves rule := by
  -- By induction on the rules, each at its position.
  induction rules generalizing position with
  | nil => simp [resolveAll]
  | cons rule rest ih =>
    obtain ⟨first, others⟩ := List.forall_mem_cons.mp each
    rw [resolveAll, check_bind_eq_ok_iff, first, ih others, List.forall_mem_cons]

/-- Alternatives pass one after the other where each passes wherever it stands. -/
theorem resolveChoices_eq_ok_iff {registry : Registry} {choices : List (Binary64 × Rule)}
    {location : Location} {position : Nat} (each : ∀ choice ∈ choices, ∀ location,
      choice.2.resolve registry location = .ok () ↔ registry.Resolves choice.2) :
    resolveChoices registry location position choices = .ok () ↔
      ∀ choice ∈ choices, registry.Resolves choice.2 := by
  -- By induction on the alternatives, each at its position.
  induction choices generalizing position with
  | nil => simp [resolveChoices]
  | cons choice rest ih =>
    obtain ⟨first, others⟩ := List.forall_mem_cons.mp each
    rw [resolveChoices, check_bind_eq_ok_iff, first, ih others, List.forall_mem_cons]

/-- A rule passes exactly where all of it resolves, wherever it stands. -/
theorem resolve_eq_ok_iff {registry : Registry} {rule : Rule} {location : Location} :
    rule.resolve registry location = .ok () ↔ registry.Resolves rule := by
  -- The walk goes down the tree in the order in which the condition is taken apart.
  induction rule generalizing location with
  | allOf rules ih =>
    rw [resolve, resolveAll_eq_ok_iff fun rule member _ => ih rule member,
      Registry.resolves_allOf_iff]
  | oneOf choices ih =>
    rw [resolve, resolveChoices_eq_ok_iff fun choice member _ => ih choice member,
      Registry.resolves_oneOf_iff]
  | when property value rule ih =>
    rw [resolve, Registry.resolves_when_iff]
    split
    · -- The walk stops at a car type that is not known, so the condition must fail there as well.
      rename_i unknown
      simpa using fun known _ => unknown.2 (known unknown.1)
    · rename_i known
      rw [ih, iff_and_self]
      intro _ asked
      by_contra unknown
      exact known ⟨asked, unknown⟩
  | ref name =>
    rw [resolve, Registry.resolves_ref_iff, ← Registry.rule?_isSome_iff]
    split <;> simp_all
  | sound name =>
    rw [resolve, Registry.resolves_sound_iff, ← Registry.sound?_isSome_iff]
    split <;> simp_all

end Rule

namespace Registry

/-- Named rules pass one after the other where each of them resolves. -/
theorem resolveRules_eq_ok_iff {registry : Registry} {rules : NamedRules} :
    registry.resolveRules rules = .ok () ↔ ∀ entry ∈ rules, registry.Resolves entry.2 := by
  -- By induction on the named rules, each at its own place.
  induction rules with
  | nil => simp [resolveRules]
  | cons entry rest ih =>
    rw [resolveRules, check_bind_eq_ok_iff, Rule.resolve_eq_ok_iff, ih, List.forall_mem_cons]

/-- A registry passes exactly where its rules all resolve and have no cycle. -/
theorem resolve_eq_ok_iff {registry : Registry} :
    registry.resolve = .ok () ↔
      (∀ entry ∈ registry.rules, registry.Resolves entry.2) ∧ registry.rules.Acyclic := by
  -- First every rule is walked, then the search for a cycle has to come back with nothing.
  rw [resolve, check_bind_eq_ok_iff, ← NamedRules.findCycle?_eq_none_iff, ← resolveRules_eq_ok_iff]
  cases registry.rules.findCycle? <;> simp

end Registry

end LocoSounds
