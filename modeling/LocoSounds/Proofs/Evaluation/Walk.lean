import LocoSounds.Draw.Seeded
import LocoSounds.Evaluation
import LocoSounds.Proofs.Registry.Build

/-! Evaluation step by step: where applying a rule leads, and that it ends without fault. -/

namespace LocoSounds

section

variable {σ π : Type} [DrawSource σ] [SkinSource π]

/-- The alternative that a run draws, if its number falls to one. -/
def drawnChoice? (choices : List (Binary64 × Rule)) (run : Run σ π) : Option (Binary64 × Rule) :=
  (drawChoice (choices.map (·.1)) run).1.bind (choices[·]?)

/-- An alternative that is drawn is one of those given. -/
theorem mem_of_drawnChoice? {σ π : Type} [DrawSource σ] {choices : List (Binary64 × Rule)}
    {choice : Binary64 × Rule} {run : Run σ π} (drawn : drawnChoice? choices run = some choice) :
    choice ∈ choices := by
  -- The index drawn is that of an alternative.
  obtain ⟨index, _, at_index⟩ := Option.bind_eq_some_iff.mp drawn
  exact List.mem_of_getElem? at_index

/-- The run finds the value for a property of a car, whatever the case of its letters. -/
def Holds (car : Car) (property : CarProperty) (value : String) (run : Run σ π) : Prop :=
  (observe car property run).1.any (sameIgnoringCase · value)

/-- A walk through a rule, with what it ends in.
It follows every reference to a rule, even to one that it is still inside of.
Each time, the names of the rules that it is then inside of are noted, the last one first. -/
inductive Registry.Walk (registry : Registry) (car : Car) : List String → Rule → Run σ π →
    Option EvaluationFault × Run σ π → List (List String) → Prop where
  | nil {chain : List String} {run : Run σ π} :
      Walk registry car chain (.allOf []) run (none, run) []
  | ended {chain : List String} {rule : Rule} {rest : List Rule} {run after : Run σ π}
      {fault : EvaluationFault} {moments : List (List String)}
      (first : Walk registry car chain rule run (some fault, after) moments) :
      Walk registry car chain (.allOf (rule :: rest)) run (some fault, after) moments
  | cons {chain : List String} {rule : Rule} {rest : List Rule} {run next : Run σ π}
      {outcome : Option EvaluationFault × Run σ π} {moments later : List (List String)}
      (first : Walk registry car chain rule run (none, next) moments)
      (others : Walk registry car chain (.allOf rest) next outcome later) :
      Walk registry car chain (.allOf (rule :: rest)) run outcome (moments ++ later)
  | chosen {chain : List String} {choices : List (Binary64 × Rule)} {choice : Binary64 × Rule}
      {run : Run σ π} {outcome : Option EvaluationFault × Run σ π} {moments : List (List String)}
      (drawn : drawnChoice? choices run = some choice)
      (inside : Walk registry car chain choice.2 (drawChoice (choices.map (·.1)) run).2 outcome
        moments) :
      Walk registry car chain (.oneOf choices) run outcome moments
  | nothing {chain : List String} {choices : List (Binary64 × Rule)} {run : Run σ π}
      (drawn : drawnChoice? choices run = none) :
      Walk registry car chain (.oneOf choices) run
        (none, (drawChoice (choices.map (·.1)) run).2) []
  | holds {chain : List String} {property : CarProperty} {value : String} {rule : Rule}
      {run : Run σ π} {outcome : Option EvaluationFault × Run σ π} {moments : List (List String)}
      (condition : Holds car property value run)
      (inside : Walk registry car chain rule (observe car property run).2 outcome moments) :
      Walk registry car chain (.when property value rule) run outcome moments
  | fails {chain : List String} {property : CarProperty} {value : String} {rule : Rule}
      {run : Run σ π} (condition : ¬ Holds car property value run) :
      Walk registry car chain (.when property value rule) run
        (none, (observe car property run).2) []
  | ref {chain : List String} {name : String} {rule : Rule} {run : Run σ π}
      {outcome : Option EvaluationFault × Run σ π} {moments : List (List String)}
      (found : registry.rule? name = some rule)
      (inside : Walk registry car (name :: chain) rule run outcome moments) :
      Walk registry car chain (.ref name) run outcome ((name :: chain) :: moments)
  | undefined {chain : List String} {name : String} {run : Run σ π}
      (missing : registry.rule? name = none) :
      Walk registry car chain (.ref name) run
        (some (.noSuchRule name), run.record (.ruleUndefined name)) []
  | sound {chain : List String} {name : String} {run : Run σ π} :
      Walk registry car chain (.sound name) run (Effect.ofSound registry name run) []

variable {registry : Registry} {car : Car}

/-- A walk is the only one through its rule from its run. -/
theorem Registry.Walk.unique {chain : List String} {rule : Rule} {run : Run σ π}
    {outcome other : Option EvaluationFault × Run σ π} {moments later : List (List String)}
    (walk : registry.Walk car chain rule run outcome moments)
    (again : registry.Walk car chain rule run other later) :
    outcome = other ∧ moments = later := by
  -- At each step the run itself decides which way the walk goes on.
  induction walk generalizing other later with
  | nil =>
    cases again
    exact ⟨rfl, rfl⟩
  | ended _ ih =>
    cases again with
    | ended first => exact ih first
    | cons first others =>
      -- The first rule ended with a fault, so it cannot have gone on as well.
      obtain ⟨same, _⟩ := ih first
      cases same
  | cons _ _ first_ih others_ih =>
    cases again with
    | ended first =>
      obtain ⟨same, _⟩ := first_ih first
      cases same
    | cons first others =>
      obtain ⟨same, rfl⟩ := first_ih first
      cases same
      obtain ⟨rfl, rfl⟩ := others_ih others
      exact ⟨rfl, rfl⟩
  | chosen drawn _ ih =>
    cases again with
    | chosen drew inside =>
      rw [drawn] at drew
      cases drew
      exact ih inside
    | nothing drew =>
      rw [drawn] at drew
      cases drew
  | nothing drawn =>
    cases again with
    | chosen drew inside =>
      rw [drawn] at drew
      cases drew
    | nothing drew => exact ⟨rfl, rfl⟩
  | holds condition _ ih =>
    cases again with
    | holds _ inside => exact ih inside
    | fails failed => exact absurd condition failed
  | fails condition =>
    cases again with
    | holds held inside => exact absurd held condition
    | fails _ => exact ⟨rfl, rfl⟩
  | ref found _ ih =>
    cases again with
    | ref again inside =>
      rw [found] at again
      cases again
      obtain ⟨rfl, rfl⟩ := ih inside
      exact ⟨rfl, rfl⟩
    | undefined missing =>
      rw [found] at missing
      cases missing
  | undefined missing =>
    cases again with
    | ref found inside =>
      rw [missing] at found
      cases found
    | undefined _ => exact ⟨rfl, rfl⟩
  | sound =>
    cases again
    exact ⟨rfl, rfl⟩

/-- Where no rule comes back to itself, every walk comes to an end. -/
theorem Registry.exists_walk (acyclic : registry.rules.Acyclic) (car : Car) (rule : Rule)
    (chain : List String) (run : Run σ π) :
    ∃ outcome moments, registry.Walk car chain rule run outcome moments := by
  -- The references of a rule lead to rules for which this is known already.
  induction rule using acyclic.induction generalizing chain run with
  | allOf rules ih =>
    -- Each rule of the list starts from the run that the one before it left.
    induction rules generalizing run with
    | nil => exact ⟨_, _, .nil⟩
    | cons rule rest rest_ih =>
      obtain ⟨first, others⟩ := List.forall_mem_cons.mp ih
      obtain ⟨⟨fault, next⟩, moments, walk⟩ := first chain run
      cases fault with
      | some fault => exact ⟨_, _, .ended walk⟩
      | none =>
        obtain ⟨outcome, later, walks⟩ := rest_ih others next
        exact ⟨_, _, .cons walk walks⟩
  | oneOf choices ih =>
    cases drawn : drawnChoice? choices run with
    | none => exact ⟨_, _, .nothing drawn⟩
    | some choice =>
      obtain ⟨outcome, moments, walk⟩ := ih choice (mem_of_drawnChoice? drawn) chain
        (drawChoice (choices.map (·.1)) run).2
      exact ⟨_, _, .chosen drawn walk⟩
  | when property value rule ih =>
    by_cases condition : Holds car property value run
    · obtain ⟨outcome, moments, walk⟩ := ih chain (observe car property run).2
      exact ⟨_, _, .holds condition walk⟩
    · exact ⟨_, _, .fails condition⟩
  | ref name ih =>
    cases found : registry.rule? name with
    | none => exact ⟨_, _, .undefined found⟩
    | some rule =>
      -- Whatever the chain is, the rule found is one further along the references.
      obtain ⟨outcome, moments, walk⟩ := ih rule found (name :: chain) run
      exact ⟨_, _, .ref found walk⟩
  | sound name => exact ⟨_, _, .sound⟩

/-- References lead from each name of a chain to every defined name that a rule refers to. -/
def NamedRules.Leads (rules : NamedRules) (chain : List String) (rule : Rule) : Prop :=
  ∀ opened ∈ chain, ∀ name ∈ rules.names, (Rule.ref name).PartOf rule →
    Relation.TransGen rules.Refers opened name

/-- What leads to all of a rule leads to each of its parts. -/
theorem NamedRules.Leads.part {rules : NamedRules} {chain : List String} {part rule : Rule}
    (leads : rules.Leads chain rule)
    (inside : ∀ {inner : Rule}, inner.PartOf part → inner.PartOf rule) : rules.Leads chain part :=
  fun opened member name defined found => leads opened member name defined (inside found)

/-- Following a reference makes the chain longer by a name that leads on. -/
theorem NamedRules.Leads.follow {rules : NamedRules} {chain : List String} {name : String}
    {rule : Rule} (leads : rules.Leads chain (.ref name)) (found : rules.lookup name = some rule) :
    rules.Leads (name :: chain) rule := by
  -- The name followed refers to what is in its rule, and every name before it leads to that name.
  have defined : name ∈ rules.names := mem_names_iff.mpr ⟨rule, found⟩
  refine List.forall_mem_cons.mpr ⟨fun other known inside => ?_,
    fun opened member other known inside => ?_⟩
  · exact .single ⟨known, rule, found, inside⟩
  · exact .tail (leads opened member name defined .self) ⟨known, rule, found, inside⟩

/-- Where no rule comes back to itself, a reference does not lead back to a name of the chain. -/
theorem NamedRules.Leads.fresh {rules : NamedRules} {chain : List String} {name : String}
    (leads : rules.Leads chain (.ref name)) (acyclic : rules.Acyclic)
    (defined : name ∈ rules.names) : name ∉ chain :=
  fun member => acyclic name (leads name member name defined .self)

/-- A walk is never inside of one rule twice at the same moment. -/
theorem Registry.Walk.nodup {chain : List String} {rule : Rule} {run : Run σ π}
    {outcome : Option EvaluationFault × Run σ π} {moments : List (List String)}
    (walk : registry.Walk car chain rule run outcome moments) (acyclic : registry.rules.Acyclic)
    (leads : registry.rules.Leads chain rule) (distinct : chain.Nodup) :
    ∀ moment ∈ moments, moment.Nodup := by
  -- The chain stays a way along references, which without a cycle meets no name again.
  induction walk with
  | nil | nothing | fails | undefined | sound => simp
  | ended _ ih => exact ih (leads.part (.allOf (.head _))) distinct
  | cons _ _ first_ih others_ih =>
    -- What the chain leads to in the rest of the list it leads to in the list.
    refine List.forall_mem_append.mpr ⟨first_ih (leads.part (.allOf (.head _))) distinct,
      others_ih (fun opened member name defined inside => ?_) distinct⟩
    obtain ⟨rule, later, found⟩ := (Rule.partOf_allOf_iff.mp inside).resolve_left (by simp)
    exact leads opened member name defined (.allOf (.tail _ later) found)
  | chosen drawn _ ih => exact ih (leads.part (.oneOf (mem_of_drawnChoice? drawn))) distinct
  | holds _ _ ih => exact ih (leads.part .when) distinct
  | @ref chain name rule _ _ _ found _ ih =>
    have fresh : name ∉ chain := leads.fresh acyclic (mem_names_of_rule? found)
    have longer : (name :: chain).Nodup := List.nodup_cons.mpr ⟨fresh, distinct⟩
    exact List.forall_mem_cons.mpr ⟨longer, ih (leads.follow found) longer⟩

/-- The effect of some rules is that of each, one after the other. -/
theorem Rule.effectOfAll_eq (call : String → Effect σ π) (rules : List Rule) :
    effectOfAll registry car call rules =
      (rules.map (·.effect registry car call)).foldr .andThen .done := by
  -- By induction on the rules, as their effect is put together.
  induction rules with
  | nil => rfl
  | cons rule rest ih => rw [effectOfAll, ih, List.map_cons, List.foldr_cons]

/-- The effect of the alternative at an index is that of the rule there. -/
theorem Rule.effectOfChoice_eq (call : String → Effect σ π) (index : Nat)
    (choices : List (Binary64 × Rule)) :
    effectOfChoice registry car call index choices =
      match choices[index]? with
      | some choice => choice.2.effect registry car call
      | none => .done := by
  -- Counting down the index goes along the list.
  induction choices generalizing index with
  | nil => cases index <;> rfl
  | cons choice rest ih =>
    cases index with
    | zero => rfl
    | succ index => simp only [effectOfChoice, ih, List.getElem?_cons_succ]

/-- The effect of a choice is that of the alternative drawn, if one is. -/
theorem Rule.effect_oneOf_eq (call : String → Effect σ π) (choices : List (Binary64 × Rule))
    (run : Run σ π) :
    (Rule.oneOf choices).effect registry car call run =
      match drawnChoice? choices run with
      | some choice => choice.2.effect registry car call (drawChoice (choices.map (·.1)) run).2
      | none => (none, (drawChoice (choices.map (·.1)) run).2) := by
  -- A draw chooses an index or nothing, and the effect is read off at the index.
  rw [effect, drawnChoice?]
  rcases drew : drawChoice (choices.map (·.1)) run with ⟨_ | index, after⟩
  · simp only [drew, Option.bind_none]
  · simp only [drew, effectOfChoice_eq, Option.bind_some]
    cases choices[index]? <;> rfl

/-- The effect of a rule that is not open yet is that of the rule found under its name. -/
theorem Registry.call_eq {chain : List String} {name : String} {rule : Rule}
    (found : registry.rule? name = some rule) (fresh : name ∉ chain) :
    (registry.call car chain name : Effect σ π) =
      rule.effect registry car (registry.call car (name :: chain)) := by
  -- A name that is not in the chain passes the guard against coming back.
  rw [call]
  split
  · simp_all
  · rename_i other again
    rw [found] at again
    cases again
    rw [dif_neg fresh]

/-- The effect of a rule that is not defined is a fault. -/
theorem Registry.call_eq_fail {chain : List String} {name : String}
    (missing : registry.rule? name = none) :
    (registry.call car chain name : Effect σ π) =
      .fail (.noSuchRule name) (.ruleUndefined name) := by
  -- The name is not defined, so the first way out is taken.
  rw [call]
  split
  · rfl
  · rename_i rule found
    rw [missing] at found
    cases found

/-- What a walk ends in is what is evaluated, so long as it is inside of no rule twice. -/
theorem Registry.Walk.effect_eq {chain : List String} {rule : Rule} {run : Run σ π}
    {outcome : Option EvaluationFault × Run σ π} {moments : List (List String)}
    (walk : registry.Walk car chain rule run outcome moments)
    (distinct : ∀ moment ∈ moments, moment.Nodup) :
    rule.effect registry car (registry.call car chain) run = outcome := by
  -- At each reference the moment noted shows that the guard lets the evaluation go on.
  induction walk with
  | nil => rfl
  | ended _ ih =>
    rw [Rule.effect, Rule.effectOfAll, Effect.andThen, ih distinct]
  | cons _ _ first_ih others_ih =>
    obtain ⟨first, others⟩ := List.forall_mem_append.mp distinct
    rw [Rule.effect, Rule.effectOfAll, Effect.andThen, first_ih first]
    exact others_ih others
  | chosen drawn _ ih =>
    rw [Rule.effect_oneOf_eq, drawn]
    exact ih distinct
  | nothing drawn => rw [Rule.effect_oneOf_eq, drawn]
  | holds condition _ ih =>
    rw [Rule.effect, Effect.guarded]
    exact (if_pos condition).trans (ih distinct)
  | fails condition =>
    rw [Rule.effect, Effect.guarded]
    exact if_neg condition
  | ref found _ ih =>
    obtain ⟨fresh, later⟩ := List.forall_mem_cons.mp distinct
    rw [Rule.effect, call_eq found (List.nodup_cons.mp fresh).1]
    exact ih later
  | undefined missing =>
    rw [Rule.effect, call_eq_fail missing]
    rfl
  | sound => rfl

/-- Where no rule comes back to itself, what is evaluated is the end of a walk that is never inside
of one rule twice. -/
theorem Registry.exists_walk_apply (acyclic : registry.rules.Acyclic) (car : Car) (rule : Rule)
    (run : Run σ π) : ∃ moments,
      registry.Walk car [] rule run (registry.apply car rule run) moments ∧
      ∀ moment ∈ moments, moment.Nodup := by
  -- A walk exists for any rule; that no rule is open twice makes it the one that is evaluated.
  obtain ⟨outcome, moments, walk⟩ := exists_walk acyclic car rule [] run
  -- A walk that starts inside of no rule has nothing to come back to.
  have distinct : ∀ moment ∈ moments, moment.Nodup :=
    walk.nodup acyclic (by simp [NamedRules.Leads]) .nil
  have applied : registry.apply car rule run = outcome := walk.effect_eq distinct
  rw [applied]
  exact ⟨moments, walk, distinct⟩

/-- A walk through a rule that resolves, among rules that resolve, ends without fault. -/
theorem Registry.Walk.without_fault {chain : List String} {rule : Rule} {run : Run σ π}
    {outcome : Option EvaluationFault × Run σ π} {moments : List (List String)}
    (walk : registry.Walk car chain rule run outcome moments) (resolves : registry.Resolves rule)
    (others : ∀ entry ∈ registry.rules, registry.Resolves entry.2) : outcome.1 = none := by
  -- Wherever the walk stands, the rule there resolves, so no name is looked up in vain.
  induction walk with
  | nil | nothing | fails => rfl
  | ended _ ih => exact ih (resolves.part (.allOf (.head _)))
  | cons _ _ _ ih =>
    have each := resolves_allOf_iff.mp resolves
    exact ih (resolves_allOf_iff.mpr fun rule later => each rule (.tail _ later))
  | chosen drawn _ ih => exact ih (resolves.part (.oneOf (mem_of_drawnChoice? drawn)))
  | holds _ _ ih => exact ih (resolves.part .when)
  | ref found _ ih =>
    -- The rule found is that of an entry, which was resolved as well.
    exact ih (others _ (mem_rules_of_rule? found))
  | undefined missing =>
    have defined := rule?_isSome_iff.mpr (resolves_ref_iff.mp resolves)
    rw [missing] at defined
    cases defined
  | @sound chain name run =>
    have defined := sound?_isSome_iff.mpr (resolves_sound_iff.mp resolves)
    obtain ⟨sound, found⟩ := Option.isSome_iff_exists.mp defined
    rw [Effect.ofSound, found]

/-- There is a walk through a rule that resolves in a registry that resolves. It is never inside of
one rule twice, ends without fault, and is what is evaluated. -/
theorem Registry.exists_walk_of_resolves (resolved : registry.resolve = .ok ()) {rule : Rule}
    (resolves : registry.Resolves rule) (car : Car) (run : Run σ π) :
    ∃ after moments, registry.Walk car [] rule run (none, after) moments ∧
      (∀ moment ∈ moments, moment.Nodup) ∧ registry.apply car rule run = (none, after) := by
  -- The walk of any rule is taken, and that everything in it resolves rules out each kind of fault.
  obtain ⟨others, acyclic⟩ := resolve_eq_ok_iff.mp resolved
  obtain ⟨moments, walk, distinct⟩ := exists_walk_apply acyclic car rule run
  -- What is evaluated is the end of the walk, which leaves no room for a fault.
  generalize registry.apply car rule run = outcome at walk ⊢
  obtain ⟨fault, after⟩ := outcome
  obtain rfl : fault = none := walk.without_fault resolves others
  exact ⟨after, moments, walk, distinct, rfl⟩

/-- A name of no rule gives a fault and changes nothing but the journal. -/
theorem Registry.applyNamed_eq_of_undefined {root : String} (missing : root ∉ registry.rules.names)
    (car : Car) (run : Run σ π) :
    registry.applyNamed car root run =
      (some (.noSuchRule root), run.record (.ruleUndefined root)) := by
  -- A name that is not defined has no rule, so the reference to it fails at once.
  have absent : registry.rule? root = none := by
    by_contra found
    exact missing (rule?_isSome_iff.mp (Option.isSome_iff_ne_none.mpr found))
  rw [applyNamed, apply, Rule.effect, call_eq_fail absent]
  rfl

/-- A selection does what the rule of its root does to no sounds, but for the journal. -/
theorem Registry.select_eq (registry : Registry) (car : Car) (root : String) (run : Run σ π) :
    let ended := registry.applyNamed car root { run with sounds := .empty }
    ∃ journal, registry.select car root run = (ended.1, { ended.2 with journal }) := by
  -- A selection is what its root does, with an event more in the journal.
  unfold select
  -- What was selected is recorded where no fault has ended the evaluation.
  rcases registry.applyNamed car root { run with sounds := .empty } with ⟨_ | fault, after⟩ <;>
    exact ⟨_, rfl⟩

/--
Rules that resolve in a registry that was built can be applied.

There is exactly one walk through such a rule, for whatever car, draws, skins and sounds.
It is inside of no rule twice at once, ends without fault, and is what applying the rule does.
Applying the rule of a name fails exactly where the name is not defined.
It then draws no number and leaves the sounds as they are.
-/
theorem Registry.apply_of_build {rules sounds carTypes : Token} {registry : Registry}
    (built : Registry.build rules sounds carTypes = .ok registry) :
    (∀ rule location, rule.resolve registry location = .ok () → ∀ (car : Car) (run : Run σ π),
      ∃ after moments,
        (∀ outcome others, registry.Walk car [] rule run outcome others ↔
          outcome = (none, after) ∧ others = moments) ∧
        (∀ moment ∈ moments, moment.Nodup) ∧
        registry.apply car rule run = (none, after)) ∧
    ∀ root (car : Car) (run : Run σ π),
      ((registry.applyNamed car root run).1 ≠ none ↔ root ∉ registry.rules.names) ∧
      (root ∉ registry.rules.names →
        (registry.applyNamed car root run).2.sounds = run.sounds ∧
        (registry.applyNamed car root run).2.draws = run.draws) := by
  -- A root that is defined resolves, so it has a walk of its own; any other ends in a fault at
  -- once.
  obtain ⟨_, _, _, resolved⟩ := build_eq_ok_iff.mp built
  refine ⟨fun rule location accepted car run => ?_,
    fun root car run => ⟨⟨fun fails defined => ?_, fun missing => ?_⟩, fun missing => ?_⟩⟩
  · obtain ⟨after, moments, walk, distinct, applied⟩ :=
      exists_walk_of_resolves resolved (Rule.resolve_eq_ok_iff.mp accepted) car run
    refine ⟨after, moments, fun outcome others => ⟨fun again => again.unique walk, ?_⟩,
      distinct, applied⟩
    rintro ⟨rfl, rfl⟩
    exact walk
  · obtain ⟨after, _, _, _, applied⟩ :=
      exists_walk_of_resolves resolved (resolves_ref_iff.mpr defined) car run
    rw [applyNamed, applied] at fails
    exact fails rfl
  · rw [applyNamed_eq_of_undefined missing]
    simp
  · rw [applyNamed_eq_of_undefined missing]
    exact ⟨rfl, rfl⟩

end

/-- In a registry that was built, a root that refers to horns can be applied, and a whistle that no
section names cannot. -/
theorem Registry.applyNamed_root_of_build :
    let run : Run SeededDraws FixedSkins := ⟨.ofSeed 1 "horns", ⟨[]⟩, .empty, []⟩
    ∃ rules sounds registry, Registry.build rules sounds .null = .ok registry ∧
      (∃ after, registry.applyNamed ⟨"DE6", "L-1"⟩ "root" run = (none, after)) ∧
      (registry.applyNamed ⟨"DE6", "L-1"⟩ "whistle" run).1 ≠ none := by
  -- The root is one of the names of the registry, and the whistle is none of them.
  intro run
  obtain ⟨applies, fails⟩ :=
    Registry.apply_of_build (σ := SeededDraws) (π := FixedSkins) build_horns
  obtain ⟨after, _, _, _, applied⟩ := applies (.ref "root") .document rfl ⟨"DE6", "L-1"⟩ run
  refine ⟨_, _, _, build_horns, ⟨after, applied⟩, (fails "whistle" ⟨"DE6", "L-1"⟩ run).1.mpr ?_⟩
  simp [NamedRules.names]

end LocoSounds
