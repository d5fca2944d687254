import LocoSounds.Rule.References

/-! The rules that stand inside a rule, and the names found among them. -/

namespace LocoSounds

namespace Rule

/-- Induction on rules: a rule made of others has the property once each of them has it. -/
@[induction_eliminator] theorem induction {motive : Rule → Prop}
    (allOf : ∀ rules, (∀ rule ∈ rules, motive rule) → motive (.allOf rules))
    (oneOf : ∀ choices, (∀ choice ∈ choices, motive choice.2) → motive (.oneOf choices))
    (when : ∀ property value rule, motive rule → motive (.when property value rule))
    (ref : ∀ name, motive (.ref name)) (sound : ∀ name, motive (.sound name)) :
    ∀ rule, motive rule := by
  -- The lists inside a rule are gone through together with it.
  refine @Rule.rec motive (fun rules => ∀ rule ∈ rules, motive rule)
    (fun choices => ∀ choice ∈ choices, motive choice.2) (fun choice => motive choice.2)
    allOf oneOf when ref sound ?_ ?_ ?_ ?_ ?_
  · simp
  · intro rule rest first others
    exact List.forall_mem_cons.mpr ⟨first, others⟩
  · simp
  · intro choice rest first others
    exact List.forall_mem_cons.mpr ⟨first, others⟩
  · intro _ _ second
    exact second

/-- A rule stands somewhere in the tree of another one, or is that rule. -/
inductive PartOf (part : Rule) : Rule → Prop where
  | self : PartOf part part
  | allOf {rules : List Rule} {rule : Rule} (member : rule ∈ rules) (inside : PartOf part rule) :
      PartOf part (.allOf rules)
  | oneOf {choices : List (Binary64 × Rule)} {choice : Binary64 × Rule}
      (member : choice ∈ choices) (inside : PartOf part choice.2) : PartOf part (.oneOf choices)
  | when {property : CarProperty} {value : String} {rule : Rule} (inside : PartOf part rule) :
      PartOf part (.when property value rule)

/-- A part of a sequence is the sequence itself or part of one of its rules. -/
@[simp] theorem partOf_allOf_iff {part : Rule} {rules : List Rule} :
    part.PartOf (.allOf rules) ↔ part = .allOf rules ∨ ∃ rule ∈ rules, part.PartOf rule := by
  -- Only two of the ways of being a part lead to a list of rules.
  constructor
  · rintro (_ | ⟨member, inside⟩ | _ | _)
    · exact .inl rfl
    · exact .inr ⟨_, member, inside⟩
  · rintro (rfl | ⟨rule, member, inside⟩)
    · exact .self
    · exact .allOf member inside

/-- A part of a choice is the choice itself or part of one of its alternatives. -/
@[simp] theorem partOf_oneOf_iff {part : Rule} {choices : List (Binary64 × Rule)} :
    part.PartOf (.oneOf choices) ↔
      part = .oneOf choices ∨ ∃ choice ∈ choices, part.PartOf choice.2 := by
  -- Only two of the ways of being a part lead to a choice.
  constructor
  · rintro (_ | _ | ⟨member, inside⟩ | _)
    · exact .inl rfl
    · exact .inr ⟨_, member, inside⟩
  · rintro (rfl | ⟨choice, member, inside⟩)
    · exact .self
    · exact .oneOf member inside

/-- A part of a condition is the condition itself or part of the rule under it. -/
@[simp] theorem partOf_when_iff {part : Rule} {property : CarProperty} {value : String}
    {rule : Rule} : part.PartOf (.when property value rule) ↔
      part = .when property value rule ∨ part.PartOf rule := by
  -- Only two of the ways of being a part lead to a condition.
  constructor
  · rintro (_ | _ | _ | inside)
    · exact .inl rfl
    · exact .inr inside
  · rintro (rfl | inside)
    · exact .self
    · exact .when inside

/-- A reference has no part but itself. -/
@[simp] theorem partOf_ref_iff {part : Rule} {name : String} :
    part.PartOf (.ref name) ↔ part = .ref name := by
  -- Nothing stands below a name.
  constructor
  · rintro ⟨⟩
    rfl
  · rintro rfl
    exact .self

/-- A sound has no part but itself. -/
@[simp] theorem partOf_sound_iff {part : Rule} {name : String} :
    part.PartOf (.sound name) ↔ part = .sound name := by
  -- Nothing stands below a name.
  constructor
  · rintro ⟨⟩
    rfl
  · rintro rfl
    exact .self

/-- What stands in a part of a rule stands in the rule. -/
theorem PartOf.trans {part middle rule : Rule} (inner : part.PartOf middle)
    (outer : middle.PartOf rule) : part.PartOf rule := by
  -- By induction on the way from the rule down to the part in the middle.
  induction outer with
  | self => exact inner
  | allOf member _ ih => exact .allOf member ih
  | oneOf member _ ih => exact .oneOf member ih
  | when _ ih => exact .when ih

/-- In a choice between references stands no other choice. -/
theorem eq_of_partOf_oneOf_refs {choices others : List (Binary64 × Rule)}
    (refs : ∀ choice ∈ choices, ∃ name, choice.2 = .ref name)
    (inside : (Rule.oneOf others).PartOf (.oneOf choices)) : others = choices := by
  -- It would be the choice itself, or stand in a reference, which has nothing inside.
  rcases partOf_oneOf_iff.mp inside with same | ⟨choice, member, within⟩
  · exact Rule.oneOf.inj same
  · obtain ⟨name, is⟩ := refs choice member
    rw [is] at within
    cases within

/-- The names of some rules are the names of each, one rule after the other. -/
theorem refsOfAll_eq (rules : List Rule) : refsOfAll rules = rules.flatMap refs := by
  -- By induction on the rules.
  induction rules with
  | nil => rfl
  | cons rule rest ih => rw [refsOfAll, ih, List.flatMap_cons]

/-- The names of some alternatives are the names of each, one alternative after the other. -/
theorem refsOfChoices_eq (choices : List (Binary64 × Rule)) :
    refsOfChoices choices = choices.flatMap (·.2.refs) := by
  -- By induction on the alternatives.
  induction choices with
  | nil => rfl
  | cons choice rest ih => rw [refsOfChoices, ih, List.flatMap_cons]

/-- A rule refers to the names of the references that stand in it. -/
theorem mem_refs_iff {name : String} {rule : Rule} :
    name ∈ rule.refs ↔ (Rule.ref name).PartOf rule := by
  -- A reference is never one of the rules made of others, so it stands in one of those.
  induction rule with
  | allOf rules ih =>
    simp only [refs, refsOfAll_eq, List.mem_flatMap, partOf_allOf_iff, reduceCtorEq, false_or]
    exact exists_congr fun rule => and_congr_right (ih rule)
  | oneOf choices ih =>
    simp only [refs, refsOfChoices_eq, List.mem_flatMap, partOf_oneOf_iff, reduceCtorEq, false_or]
    exact exists_congr fun choice => and_congr_right (ih choice)
  | when property value rule ih => simp [refs, ih]
  | ref other => simp [refs]
  | sound other => simp [refs]

end Rule

end LocoSounds
