import LocoSounds.Proofs.Registry.Faults
import LocoSounds.Proofs.Registry.Resolution

/-! The fault that a registry is refused for: the first one in its rules and their trees. -/

namespace LocoSounds

/-- Steps come before others in preorder: they lead to something around, or to an earlier item. -/
inductive Step.Precedes : List Step → List Step → Prop where
  | around {step : Step} {rest : List Step} : Precedes [] (step :: rest)
  | earlier {position later : Nat} {steps others : List Step} (less : position < later) :
      Precedes (.item position :: steps) (.item later :: others)
  | within {step : Step} {steps others : List Step} (precedes : Precedes steps others) :
      Precedes (step :: steps) (step :: others)

/-- Nothing comes before the tree as a whole. -/
theorem Step.not_precedes_nil {steps : List Step} : ¬ Step.Precedes steps [] := nofun

/-- Below the same step, what comes first is decided by the steps after it. -/
theorem Step.precedes_cons_iff {step : Step} {steps others : List Step} :
    Step.Precedes (step :: steps) (step :: others) ↔ Step.Precedes steps others := by
  -- Of the two ways of coming first, the one at the same step is the only one that fits.
  constructor
  · intro precedes
    cases precedes with
    | earlier less => exact absurd less (Nat.lt_irrefl _)
    | within precedes => exact precedes
  · exact .within

/-- An item comes before what is in a later one, and before what comes later in itself. -/
theorem Step.precedes_item_iff {position later : Nat} {steps others : List Step} :
    Step.Precedes (.item position :: steps) (.item later :: others) ↔
      position < later ∨ position = later ∧ Step.Precedes steps others := by
  -- Positions are compared first, and what follows matters only at the same one.
  constructor
  · intro precedes
    cases precedes with
    | earlier less => exact .inl less
    | within precedes => exact .inr ⟨rfl, precedes⟩
  · rintro (less | ⟨rfl, precedes⟩)
    · exact .earlier less
    · exact .within precedes

/-- Steps lead from a rule to a rule in its tree. -/
inductive Rule.Leads : Rule → List Step → Rule → Prop where
  | here {rule : Rule} : Leads rule [] rule
  | allOf {rules : List Rule} {position : Nat} {rule part : Rule} {steps : List Step}
      (found : rules[position]? = some rule) (onward : Leads rule steps part) :
      Leads (.allOf rules) (.key "rules" :: .item position :: steps) part
  | oneOf {choices : List (Binary64 × Rule)} {position : Nat} {choice : Binary64 × Rule}
      {part : Rule} {steps : List Step} (found : choices[position]? = some choice)
      (onward : Leads choice.2 steps part) :
      Leads (.oneOf choices) (.key "rules" :: .item position :: steps) part
  | when {property : CarProperty} {value : String} {rule part : Rule} {steps : List Step}
      (onward : Leads rule steps part) :
      Leads (.when property value rule) (.key "rule" :: steps) part

/-- Steps lead from a rule to itself, or on from one of the rules in a list. -/
def Rule.LeadsThrough (whole : Rule) (rules : List Rule) : Prop :=
  ∀ steps part, whole.Leads steps part ↔ steps = [] ∧ part = whole ∨
    ∃ (position : Nat) (rule : Rule) (rest : List Step), rules[position]? = some rule ∧
      rule.Leads rest part ∧ steps = .key "rules" :: .item position :: rest

namespace Rule

/-- From rules that are all applied, steps lead to them all and on through one of them. -/
theorem leadsThrough_allOf (rules : List Rule) : (Rule.allOf rules).LeadsThrough rules := by
  -- The first step, if there is one, is to a rule of the list.
  intro steps part
  constructor
  · rintro (_ | ⟨found, onward⟩ | _ | _)
    · exact .inl ⟨rfl, rfl⟩
    · exact .inr ⟨_, _, _, found, onward, rfl⟩
  · rintro (⟨rfl, rfl⟩ | ⟨position, rule, rest, found, onward, rfl⟩)
    · exact .here
    · exact .allOf found onward

/-- From a choice, steps lead to the choice and on through one of its alternatives. -/
theorem leadsThrough_oneOf (choices : List (Binary64 × Rule)) :
    (Rule.oneOf choices).LeadsThrough (choices.map (·.2)) := by
  -- The alternatives stand at the positions of their rules, with the weights left out.
  intro steps part
  constructor
  · rintro (_ | _ | ⟨found, onward⟩ | _)
    · exact .inl ⟨rfl, rfl⟩
    · exact .inr ⟨_, _, _, by rw [List.getElem?_map, found]; rfl, onward, rfl⟩
  · rintro (⟨rfl, rfl⟩ | ⟨position, rule, rest, found, onward, rfl⟩)
    · exact .here
    · obtain ⟨choice, chosen, rfl⟩ := Option.map_eq_some_iff.mp (List.getElem?_map ▸ found)
      exact .oneOf chosen onward

/-- From a condition, steps lead to the condition and on through the rule under it. -/
@[simp] theorem leads_when_iff {property : CarProperty} {value : String} {rule part : Rule}
    {steps : List Step} : (Rule.when property value rule).Leads steps part ↔
      steps = [] ∧ part = .when property value rule ∨
        ∃ rest, rule.Leads rest part ∧ steps = .key "rule" :: rest := by
  -- The first step, if there is one, is to the rule under the condition.
  constructor
  · rintro (_ | _ | _ | onward)
    · exact .inl ⟨rfl, rfl⟩
    · exact .inr ⟨_, onward, rfl⟩
  · rintro (⟨rfl, rfl⟩ | ⟨rest, onward, rfl⟩)
    · exact .here
    · exact .when onward

/-- From a reference no steps lead further. -/
@[simp] theorem leads_ref_iff {name : String} {part : Rule} {steps : List Step} :
    (Rule.ref name).Leads steps part ↔ steps = [] ∧ part = .ref name := by
  -- A reference has no rules inside.
  constructor
  · rintro ⟨⟩
    exact ⟨rfl, rfl⟩
  · rintro ⟨rfl, rfl⟩
    exact .here

/-- From a sound no steps lead further. -/
@[simp] theorem leads_sound_iff {name : String} {part : Rule} {steps : List Step} :
    (Rule.sound name).Leads steps part ↔ steps = [] ∧ part = .sound name := by
  -- A sound has no rules inside.
  constructor
  · rintro ⟨⟩
    exact ⟨rfl, rfl⟩
  · rintro ⟨rfl, rfl⟩
    exact .here

/-- The rules in a tree are those that steps lead to. -/
theorem partOf_iff_exists_leads {part rule : Rule} :
    part.PartOf rule ↔ ∃ steps, rule.Leads steps part := by
  -- Each level of the tree is one step from a rule to one inside it.
  constructor
  · intro inside
    induction inside with
    | self => exact ⟨[], .here⟩
    | allOf member _ ih =>
      obtain ⟨steps, leads⟩ := ih
      obtain ⟨position, found⟩ := List.getElem?_of_mem member
      exact ⟨_, .allOf found leads⟩
    | oneOf member _ ih =>
      obtain ⟨steps, leads⟩ := ih
      obtain ⟨position, found⟩ := List.getElem?_of_mem member
      exact ⟨_, .oneOf found leads⟩
    | when _ ih =>
      obtain ⟨steps, leads⟩ := ih
      exact ⟨_, .when leads⟩
  · rintro ⟨steps, leads⟩
    induction leads with
    | here => exact .self
    | allOf found _ ih => exact .allOf (List.mem_of_getElem? found) ih
    | oneOf found _ ih => exact .oneOf (List.mem_of_getElem? found) ih
    | when _ ih => exact .when ih

end Rule

namespace Registry

/-- No rule in a tree is rejected. -/
def Accepts (registry : Registry) (rule : Rule) : Prop :=
  ∀ part, part.PartOf rule → ∀ fault, ¬ registry.Rejects part fault

/-- Steps lead to a rule that is rejected for a fault, and no rule before it in the tree is. -/
structure RejectsFirst (registry : Registry) (rule : Rule) (steps : List Step)
    (fault : ResolutionFault) : Prop where
  rejects : ∃ part, rule.Leads steps part ∧ registry.Rejects part fault
  first : ∀ others part, rule.Leads others part → Step.Precedes others steps →
    ∀ fault, ¬ registry.Rejects part fault

/-- What a registry is refused for: the first rule that is rejected, going through the trees of the
named rules in order, or a cycle where none is. -/
inductive FirstFault (registry : Registry) : ResolutionError → Prop where
  | rejected {before after : NamedRules} {name : String} {rule : Rule} {steps : List Step}
      {fault : ResolutionFault} (written : registry.rules = before ++ (name, rule) :: after)
      (accepted : ∀ entry ∈ before, registry.Accepts entry.2)
      (first : registry.RejectsFirst rule steps fault) :
      FirstFault registry ⟨fault, ((Location.start "rules").key name).through steps⟩
  | cycle {names : List String} (accepted : ∀ entry ∈ registry.rules, registry.Accepts entry.2)
      (found : registry.rules.findCycle? = some names) :
      FirstFault registry ⟨.cycle names, (Location.start "rules").key (names.headD "")⟩

variable {registry : Registry}

/-- A tree resolves where no rule in it is rejected. -/
theorem resolves_iff_accepts {rule : Rule} : registry.Resolves rule ↔ registry.Accepts rule := by
  -- The three kinds of rejection are the three things that a tree that resolves does not have.
  constructor
  · intro resolves part inside fault rejects
    -- What a rule is rejected for is what a tree that resolves does not have.
    cases rejects with
    | ref undefined =>
      have defined := rule?_isSome_iff.mpr (resolves.refs _ inside)
      rw [undefined] at defined
      cases defined
    | sound undefined =>
      have defined := sound?_isSome_iff.mpr (resolves.sounds _ inside)
      rw [undefined] at defined
      cases defined
    | carType unknown => exact unknown (resolves.carTypes _ _ inside)
  · intro accepts
    refine ⟨fun name inside => ?_, fun name inside => ?_, fun value inner inside => ?_⟩
    · rw [← rule?_isSome_iff, Option.isSome_iff_ne_none]
      exact fun undefined => accepts _ inside _ (.ref undefined)
    · rw [← sound?_isSome_iff, Option.isSome_iff_ne_none]
      exact fun undefined => accepts _ inside _ (.sound undefined)
    · by_contra unknown
      exact accepts _ inside _ (.carType unknown)

/-- The first rejected rule below one that is made of others is the first one of the first of these
that is not accepted. -/
theorem rejectsFirst_iff_of_leadsThrough {whole : Rule} {rules : List Rule} {steps : List Step}
    {fault : ResolutionFault} (through : whole.LeadsThrough rules)
    (fit : ∀ fault, ¬ registry.Rejects whole fault) :
    registry.RejectsFirst whole steps fault ↔
      ∃ (position : Nat) (rule : Rule) (rest : List Step), rules[position]? = some rule ∧
        (∀ earlier < position, ∀ other, rules[earlier]? = some other → registry.Accepts other) ∧
        registry.RejectsFirst rule rest fault ∧
        steps = .key "rules" :: .item position :: rest := by
  -- The rule around is not rejected itself, so the fault lies in one of the rules that it is made
  -- of.
  constructor
  · rintro ⟨⟨part, leads, rejects⟩, first⟩
    obtain ⟨rfl, rfl⟩ | ⟨position, rule, rest, found, onward, rfl⟩ := (through _ _).mp leads
    · exact absurd rejects (fit fault)
    refine ⟨position, rule, rest, found, ?_, ⟨⟨part, onward, rejects⟩, ?_⟩, rfl⟩
    · -- All of an earlier rule comes before the place of the fault.
      intro earlier less other among inner inside
      obtain ⟨others, leads⟩ := Rule.partOf_iff_exists_leads.mp inside
      exact first _ inner ((through _ _).mpr (.inr ⟨_, _, _, among, leads, rfl⟩))
        (.within (.earlier less))
    · intro others inner leads precedes
      exact first _ inner ((through _ _).mpr (.inr ⟨_, _, _, found, leads, rfl⟩))
        (.within (.within precedes))
  · rintro ⟨position, rule, rest, found, accepted, ⟨⟨part, leads, rejects⟩, first⟩, rfl⟩
    refine ⟨⟨part, (through _ _).mpr (.inr ⟨_, _, _, found, leads, rfl⟩), rejects⟩, ?_⟩
    intro others inner leads precedes
    obtain ⟨rfl, rfl⟩ | ⟨earlier, other, others, among, onward, rfl⟩ := (through _ _).mp leads
    · exact fit
    -- What comes before is in an earlier rule, or in the same one before the fault.
    rw [Step.precedes_cons_iff, Step.precedes_item_iff] at precedes
    obtain less | ⟨rfl, precedes⟩ := precedes
    · have inside := Rule.partOf_iff_exists_leads.mpr ⟨_, onward⟩
      exact accepted earlier less other among inner inside
    · cases found.symm.trans among
      exact first others inner onward precedes

/-- A rule that stands by itself is the first that is rejected where it is rejected at all. -/
theorem rejectsFirst_iff_of_leads_self {rule : Rule} {steps : List Step} {fault : ResolutionFault}
    (alone : ∀ others part, rule.Leads others part ↔ others = [] ∧ part = rule) :
    registry.RejectsFirst rule steps fault ↔ steps = [] ∧ registry.Rejects rule fault := by
  -- Nothing comes before the rule itself, so being first says no more.
  constructor
  · rintro ⟨⟨part, leads, rejects⟩, _⟩
    obtain ⟨rfl, rfl⟩ := (alone _ _).mp leads
    exact ⟨rfl, rejects⟩
  · rintro ⟨rfl, rejects⟩
    refine ⟨⟨rule, .here, rejects⟩, ?_⟩
    intro others part _ precedes
    exact absurd precedes Step.not_precedes_nil

/-- A condition is looked at before the rule under it. -/
theorem rejectsFirst_when_iff {property : CarProperty} {value : String} {rule : Rule}
    {steps : List Step} {fault : ResolutionFault} :
    registry.RejectsFirst (.when property value rule) steps fault ↔
      steps = [] ∧ registry.Rejects (.when property value rule) fault ∨
      (∀ fault, ¬ registry.Rejects (.when property value rule) fault) ∧
        ∃ rest, registry.RejectsFirst rule rest fault ∧ steps = .key "rule" :: rest := by
  -- The empty steps lead to the condition, and they come before all others.
  constructor
  · rintro ⟨⟨part, leads, rejects⟩, first⟩
    obtain ⟨rfl, rfl⟩ | ⟨rest, onward, rfl⟩ := Rule.leads_when_iff.mp leads
    · exact .inl ⟨rfl, rejects⟩
    · refine .inr ⟨first [] _ .here .around, rest, ⟨⟨part, onward, rejects⟩, ?_⟩, rfl⟩
      intro others inner leads precedes
      exact first _ inner (.when leads) (.within precedes)
  · rintro (⟨rfl, rejects⟩ | ⟨fit, rest, ⟨⟨part, leads, rejects⟩, first⟩, rfl⟩)
    · refine ⟨⟨_, .here, rejects⟩, ?_⟩
      intro others part _ precedes
      exact absurd precedes Step.not_precedes_nil
    · refine ⟨⟨part, .when leads, rejects⟩, ?_⟩
      intro others inner leads precedes
      obtain ⟨rfl, rfl⟩ | ⟨others, onward, rfl⟩ := Rule.leads_when_iff.mp leads
      · exact fit
      · exact first others inner onward (Step.precedes_cons_iff.mp precedes)

end Registry

namespace Rule

variable {registry : Registry} {location : Location} {error : ResolutionError}

/-- A tree passes where no rule in it is rejected. -/
theorem resolve_eq_ok_iff_accepts {rule : Rule} :
    rule.resolve registry location = .ok () ↔ registry.Accepts rule := by
  -- Resolving was shown to come to the same as passing, and accepting does so too.
  rw [resolve_eq_ok_iff, Registry.resolves_iff_accepts]

/-- Rules of a list do not pass where one of them does not, and those before it do. -/
theorem resolveAll_eq_error_iff {rules : List Rule} {position : Nat} :
    resolveAll registry location position rules = .error error ↔
      ∃ (index : Nat) (rule : Rule), rules[index]? = some rule ∧
        (∀ earlier < index, ∀ other, rules[earlier]? = some other → registry.Accepts other) ∧
        rule.resolve registry (location.item (position + index)) = .error error := by
  -- An index into the list is that of its first rule, or one more than an index into the rest.
  induction rules generalizing position with
  | nil => simp [resolveAll]
  | cons rule rest ih =>
    rw [resolveAll, bind_eq_error_iff]
    constructor
    · rintro (failed | ⟨_, passed, later⟩)
      · exact ⟨0, rule, rfl, by simp, failed⟩
      · obtain ⟨index, other, found, accepted, failed⟩ := ih.mp later
        refine ⟨index + 1, other, found, ?_, by rwa [← Nat.add_assoc, Nat.add_right_comm]⟩
        rintro (_ | earlier) less inner among
        · cases among
          exact resolve_eq_ok_iff_accepts.mp passed
        · exact accepted earlier (Nat.lt_of_succ_lt_succ less) inner among
    · rintro ⟨_ | index, other, found, accepted, failed⟩
      · cases found
        exact .inl failed
      · have passed : rule.resolve registry (location.item position) = .ok () :=
          resolve_eq_ok_iff_accepts.mpr (accepted 0 (Nat.succ_pos _) rule rfl)
        refine .inr ⟨(), passed, ih.mpr ⟨index, other, found, ?_, ?_⟩⟩
        · intro earlier less inner among
          exact accepted (earlier + 1) (Nat.succ_lt_succ less) inner among
        · rwa [Nat.add_assoc, Nat.add_comm 1]

/-- A rule made of others is not rejected itself. -/
theorem not_rejects_allOf {rules : List Rule} {fault : ResolutionFault} :
    ¬ registry.Rejects (.allOf rules) fault := nofun

/-- A choice is not rejected itself. -/
theorem not_rejects_oneOf {choices : List (Binary64 × Rule)} {fault : ResolutionFault} :
    ¬ registry.Rejects (.oneOf choices) fault := nofun

/-- A reference is rejected where it does not pass. -/
theorem resolve_ref_eq_error_iff {name : String} :
    (Rule.ref name).resolve registry location = .error error ↔
      registry.Rejects (.ref name) error.fault ∧ error.location = location := by
  -- The name is looked up in the rules, and that is all that can fail.
  constructor
  · intro failed
    exact (rejects_of_resolve_ref failed).symm
  · obtain ⟨fault, place⟩ := error
    rintro ⟨⟨undefined⟩, rfl⟩
    simp [resolve, undefined]

/-- A sound is rejected where it does not pass. -/
theorem resolve_sound_eq_error_iff {name : String} :
    (Rule.sound name).resolve registry location = .error error ↔
      registry.Rejects (.sound name) error.fault ∧ error.location = location := by
  -- The name is looked up in the sounds, and that is all that can fail.
  constructor
  · intro failed
    exact (rejects_of_resolve_sound failed).symm
  · obtain ⟨fault, place⟩ := error
    rintro ⟨_ | ⟨undefined⟩, rfl⟩
    simp [resolve, undefined]

/-- A condition is rejected for its car type, and for nothing else. -/
theorem rejects_when_iff {property : CarProperty} {value : String} {rule : Rule}
    {fault : ResolutionFault} : registry.Rejects (.when property value rule) fault ↔
      (property = .carType ∧ lowercase value ∉ registry.carTypes) ∧
        fault = .unknownCarType value := by
  -- Of the kinds of rejection one is about conditions.
  constructor
  · rintro ⟨⟩
    rename_i unknown
    exact ⟨⟨rfl, unknown⟩, rfl⟩
  · rintro ⟨⟨rfl, unknown⟩, rfl⟩
    exact .carType unknown

/-- A tree is searched for its first fault as what is made of others is, rule by rule. -/
theorem resolveAll_eq_error_iff_rejectsFirst {whole : Rule} {rules : List Rule}
    (through : whole.LeadsThrough rules) (fit : ∀ fault, ¬ registry.Rejects whole fault)
    (each : ∀ rule ∈ rules, ∀ location, rule.resolve registry location = .error error ↔
      ∃ steps, registry.RejectsFirst rule steps error.fault ∧
        error.location = location.through steps) :
    resolveAll registry (location.key "rules") 0 rules = .error error ↔
      ∃ steps, registry.RejectsFirst whole steps error.fault ∧
        error.location = location.through steps := by
  -- Positions in the list are steps to its rules, and the location grows by the same steps.
  simp only [resolveAll_eq_error_iff, Nat.zero_add,
    Registry.rejectsFirst_iff_of_leadsThrough through fit]
  constructor
  · rintro ⟨index, rule, found, accepted, failed⟩
    obtain ⟨rest, first, place⟩ := (each rule (List.mem_of_getElem? found) _).mp failed
    rw [Location.item_through, Location.key_through] at place
    exact ⟨_, ⟨index, rule, rest, found, accepted, first, rfl⟩, place⟩
  · rintro ⟨_, ⟨index, rule, rest, found, accepted, first, rfl⟩, place⟩
    rw [← Location.key_through, ← Location.item_through] at place
    exact ⟨index, rule, found, accepted,
      (each rule (List.mem_of_getElem? found) _).mpr ⟨rest, first, place⟩⟩

/-- A tree fails exactly for the first rule in it that is rejected, at the place of that rule. -/
theorem resolve_eq_error_iff {rule : Rule} :
    rule.resolve registry location = .error error ↔
      ∃ steps, registry.RejectsFirst rule steps error.fault ∧
        error.location = location.through steps := by
  -- The walk goes down the tree, and at each rule it looks for the first fault below it.
  induction rule generalizing location with
  | allOf rules ih =>
    exact resolveAll_eq_error_iff_rejectsFirst (leadsThrough_allOf rules)
      (fun _ => not_rejects_allOf) fun rule member _ => ih rule member
  | oneOf choices ih =>
    rw [resolve, resolveChoices_eq]
    refine resolveAll_eq_error_iff_rejectsFirst (leadsThrough_oneOf choices)
      (fun _ => not_rejects_oneOf) fun rule member _ => ?_
    obtain ⟨choice, chosen, rfl⟩ := List.mem_map.mp member
    exact ih choice chosen
  | when property value rule ih =>
    rw [resolve]
    simp only [Registry.rejectsFirst_when_iff, rejects_when_iff]
    obtain ⟨fault, place⟩ := error
    split
    · -- The car type is not known, so the rule under the condition is not looked at.
      rename_i unknown
      constructor
      · intro failed
        cases failed
        exact ⟨[], .inl ⟨rfl, unknown, rfl⟩, location.through_nil.symm⟩
      · rintro ⟨_, ⟨rfl, _, rfl⟩ | ⟨fit, _⟩, same⟩
        · rw [Location.through_nil] at same
          rw [← same]
        · exact absurd ⟨unknown, rfl⟩ (fit _)
    · rename_i known
      rw [ih]
      constructor
      · rintro ⟨rest, first, place⟩
        rw [Location.key_through] at place
        exact ⟨_, .inr ⟨fun _ rejected => known rejected.1, rest, first, rfl⟩, place⟩
      · rintro ⟨_, ⟨_, rejected, _⟩ | ⟨_, rest, first, rfl⟩, place⟩
        · exact absurd rejected known
        · exact ⟨rest, first, by rwa [Location.key_through]⟩
  | ref name =>
    simp only [resolve_ref_eq_error_iff,
      Registry.rejectsFirst_iff_of_leads_self fun _ _ => leads_ref_iff]
    simp
  | sound name =>
    simp only [resolve_sound_eq_error_iff,
      Registry.rejectsFirst_iff_of_leads_self fun _ _ => leads_sound_iff]
    simp

end Rule

namespace Registry

variable {registry : Registry} {error : ResolutionError}

/-- Named rules do not pass where one of them does not, and those before it do. -/
theorem resolveRules_eq_error_iff {rules : NamedRules} :
    registry.resolveRules rules = .error error ↔
      ∃ (before after : NamedRules) (name : String) (rule : Rule),
        rules = before ++ (name, rule) :: after ∧
        (∀ entry ∈ before, registry.Accepts entry.2) ∧
        rule.resolve registry ((Location.start "rules").key name) = .error error := by
  -- By induction on the named rules, in the order in which they are gone through.
  induction rules with
  | nil => simp [resolveRules]
  | cons entry rest ih =>
    rw [resolveRules, bind_eq_error_iff]
    constructor
    · rintro (failed | ⟨_, passed, later⟩)
      · exact ⟨[], rest, entry.1, entry.2, rfl, by simp, failed⟩
      · obtain ⟨before, after, name, rule, rfl, accepted, failed⟩ := ih.mp later
        refine ⟨entry :: before, after, name, rule, rfl, ?_, failed⟩
        exact List.forall_mem_cons.mpr ⟨Rule.resolve_eq_ok_iff_accepts.mp passed, accepted⟩
    · rintro ⟨before, after, name, rule, written, accepted, failed⟩
      -- The first rule is the one at fault, or it comes before that one and passes.
      cases before with
      | nil =>
        cases written
        exact .inl failed
      | cons first before =>
        cases written
        obtain ⟨here, accepted⟩ := List.forall_mem_cons.mp accepted
        exact .inr ⟨(), Rule.resolve_eq_ok_iff_accepts.mpr here,
          ih.mpr ⟨before, after, name, rule, rfl, accepted, failed⟩⟩

/-- Named rules pass where no rule in their trees is rejected. -/
theorem resolveRules_eq_ok_iff_accepts {rules : NamedRules} :
    registry.resolveRules rules = .ok () ↔ ∀ entry ∈ rules, registry.Accepts entry.2 := by
  -- They pass where all their trees resolve, which are those without a rejected rule.
  rw [resolveRules_eq_ok_iff]
  exact forall₂_congr fun _ _ => resolves_iff_accepts

/-- A registry is refused exactly for its first fault. -/
theorem resolve_eq_error_iff_firstFault :
    registry.resolve = .error error ↔ registry.FirstFault error := by
  -- The rules are gone through first, and a cycle is looked for only once all of them passed.
  obtain ⟨fault, place⟩ := error
  rw [resolve, bind_eq_error_iff, resolveRules_eq_error_iff]
  constructor
  · rintro (⟨before, after, name, rule, written, accepted, failed⟩ | ⟨_, passed, searched⟩)
    · obtain ⟨steps, first, rfl⟩ := Rule.resolve_eq_error_iff.mp failed
      exact .rejected written accepted first
    · cases found : registry.rules.findCycle? with
      | none => simp [found] at searched
      | some names =>
        simp only [found, Except.error.injEq] at searched
        rw [← searched]
        exact .cycle (resolveRules_eq_ok_iff_accepts.mp passed) found
  · intro first
    cases first with
    | rejected written accepted first =>
      exact .inl ⟨_, _, _, _, written, accepted,
        Rule.resolve_eq_error_iff.mpr ⟨_, first, rfl⟩⟩
    | cycle accepted found =>
      refine .inr ⟨(), resolveRules_eq_ok_iff_accepts.mpr accepted, ?_⟩
      rw [found]

/--
What is reported of a tree is the first rule in it that is rejected, in preorder, and the steps from the
tree to that rule. Where no rule in the tree is rejected nothing is reported.

Of the named rules of a registry the first one whose tree has a fault is reported in this way.
A cycle is reported only where none of them has one.
-/
theorem resolve_reports_first_fault (registry : Registry) :
    (∀ (rule : Rule) (location : Location),
      rule.resolve registry location = .ok () ↔ registry.Accepts rule) ∧
    (∀ (rule : Rule) (location : Location) (error : ResolutionError),
      rule.resolve registry location = .error error ↔
        ∃ steps, registry.RejectsFirst rule steps error.fault ∧
          error.location = location.through steps) ∧
    ∀ error, registry.resolve = .error error ↔ registry.FirstFault error := by
  -- Each part was shown on its own for trees and for registries.
  refine ⟨?_, ?_, ?_⟩
  · intro rule location
    exact Rule.resolve_eq_ok_iff_accepts
  · intro rule location error
    exact Rule.resolve_eq_error_iff
  · intro error
    exact resolve_eq_error_iff_firstFault

end Registry

end LocoSounds
