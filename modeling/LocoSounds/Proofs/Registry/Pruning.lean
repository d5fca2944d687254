import LocoSounds.Proofs.Registry.Resolution

/-! What is reached from a rule through references, and rules with some conditions taken out. -/

namespace LocoSounds

namespace Rule

mutual

/-- The rule with an empty one in place of each condition on one of some properties. -/
def without (dropped : List CarProperty) : Rule → Rule
  | .allOf rules => .allOf (withoutInAll dropped rules)
  | .oneOf choices => .oneOf (withoutInChoices dropped choices)
  | .when property value rule =>
    if property ∈ dropped then .allOf [] else .when property value (rule.without dropped)
  | .ref name => .ref name
  | .sound name => .sound name

/-- Rules of a list with such conditions taken out. -/
def withoutInAll (dropped : List CarProperty) : List Rule → List Rule
  | [] => []
  | rule :: rest => rule.without dropped :: withoutInAll dropped rest

/-- Alternatives with such conditions taken out of their rules. -/
def withoutInChoices (dropped : List CarProperty) :
    List (Binary64 × Rule) → List (Binary64 × Rule)
  | [] => []
  | (weight, rule) :: rest => (weight, rule.without dropped) :: withoutInChoices dropped rest

end

end Rule

/-- The registry with conditions on some properties taken out of each rule. -/
def Registry.without (registry : Registry) (dropped : List CarProperty) : Registry :=
  { registry with rules := registry.rules.map fun entry => (entry.1, entry.2.without dropped) }

/-- A rule is reached from another one: it stands in its tree, or in the tree of a rule that is
referred to from there, and so on. -/
inductive Registry.Reached (registry : Registry) (rule : Rule) : Rule → Prop where
  | inside {part : Rule} (inside : part.PartOf rule) : Reached registry rule part
  | follow {name : String} {next part : Rule} (reached : Reached registry rule (.ref name))
      (found : registry.rule? name = some next) (inside : part.PartOf next) :
      Reached registry rule part

namespace Rule

/-- Conditions are taken out of rules one by one. -/
theorem withoutInAll_eq (dropped : List CarProperty) (rules : List Rule) :
    withoutInAll dropped rules = rules.map (·.without dropped) := by
  -- By induction on the rules.
  induction rules with
  | nil => rfl
  | cons rule rest ih => rw [withoutInAll, ih, List.map_cons]

/-- Conditions are taken out of alternatives one by one, and their weights are kept. -/
theorem withoutInChoices_eq (dropped : List CarProperty) (choices : List (Binary64 × Rule)) :
    withoutInChoices dropped choices =
      choices.map fun choice => (choice.1, choice.2.without dropped) := by
  -- By induction on the alternatives.
  induction choices with
  | nil => rfl
  | cons choice rest ih => rw [withoutInChoices, ih, List.map_cons]

/-- Where no property is given, every condition stays. -/
@[simp] theorem without_nil (rule : Rule) : rule.without [] = rule := by
  -- By induction on the rule; only a condition could be taken out, and none is asked for.
  induction rule with
  | allOf rules ih => rw [without, withoutInAll_eq, List.map_congr_left ih, List.map_id']
  | oneOf choices ih =>
    have same : ∀ choice ∈ choices, (choice.1, choice.2.without []) = choice := fun choice member =>
      Prod.ext rfl (ih choice member)
    rw [without, withoutInChoices_eq, List.map_congr_left same, List.map_id']
  | when property value rule ih => rw [without, if_neg List.not_mem_nil, ih]
  | ref name => rfl
  | sound name => rfl

end Rule

namespace Registry

variable {registry : Registry} {rule part : Rule}

/-- Where no property is given, every condition of every rule stays. -/
@[simp] theorem without_nil (registry : Registry) : registry.without [] = registry := by
  -- Each of its rules stays as it is, and so does the list of them.
  simp [without]

/-- Under a name stands the rule of that name with its conditions taken out. -/
theorem rule?_without (registry : Registry) (dropped : List CarProperty) (name : String) :
    (registry.without dropped).rule? name = (registry.rule? name).map (·.without dropped) :=
  lookup_map_entries (fun _ => Rule.without dropped) registry.rules name

/-- Taking conditions out of rules leaves the sounds as they are. -/
theorem sound?_without (registry : Registry) (dropped : List CarProperty) (name : String) :
    registry.sound? name = (registry.without dropped).sound? name := rfl

/-- What is reached from a part of a rule is reached from the rule. -/
theorem Reached.of_part {middle : Rule} (reached : registry.Reached middle part)
    (outer : middle.PartOf rule) : registry.Reached rule part := by
  -- Only the first tree on the way is looked at from further outside.
  induction reached with
  | inside inner => exact .inside (inner.trans outer)
  | follow _ found inner ih => exact .follow ih found inner

/-- What is reached from the rule of a name is reached from a reference to that name. -/
theorem Reached.of_ref {name : String} (reached : registry.Reached rule part)
    (found : registry.rule? name = some rule) : registry.Reached (.ref name) part := by
  -- The reference itself is the first step of the way.
  induction reached with
  | inside inner => exact .follow (.inside .self) found inner
  | follow _ next inner ih => exact .follow ih next inner

/-- What is reached from a rule stands in it or in one of the named rules. -/
theorem Reached.mem_rules (reached : registry.Reached rule part) :
    part.PartOf rule ∨ ∃ entry ∈ registry.rules, part.PartOf entry.2 := by
  -- The last reference that was followed leads to the rule in which the part stands.
  cases reached with
  | inside inner => exact .inl inner
  | follow _ found inner => exact .inr ⟨_, mem_rules_of_rule? found, inner⟩

end Registry

end LocoSounds
