import LocoSounds.Proofs.Evaluation.Conditions
import LocoSounds.Proofs.Registry.Pruning
import LocoSounds.Proofs.SoundSet

/-! Where the sounds of an evaluation come from: leaves of rules, past conditions that are met. -/

namespace LocoSounds

/-- A rule beside the names of its sounds, in the order in which they stand in its tree and in those
of the rules that it refers to. What is under a condition that is not met is left out. -/
inductive Registry.Leaves (registry : Registry) (met : CarProperty → String → Prop) :
    Rule → List String → Prop where
  | nil : Leaves registry met (.allOf []) []
  | cons {rule : Rule} {rest : List Rule} {names later : List String}
      (first : Leaves registry met rule names) (others : Leaves registry met (.allOf rest) later) :
      Leaves registry met (.allOf (rule :: rest)) (names ++ later)
  | noChoice : Leaves registry met (.oneOf []) []
  | choice {choice : Binary64 × Rule} {rest : List (Binary64 × Rule)} {names later : List String}
      (first : Leaves registry met choice.2 names)
      (others : Leaves registry met (.oneOf rest) later) :
      Leaves registry met (.oneOf (choice :: rest)) (names ++ later)
  | holds {property : CarProperty} {value : String} {rule : Rule} {names : List String}
      (condition : met property value) (inside : Leaves registry met rule names) :
      Leaves registry met (.when property value rule) names
  | fails {property : CarProperty} {value : String} {rule : Rule}
      (condition : ¬ met property value) : Leaves registry met (.when property value rule) []
  | ref {name : String} {rule : Rule} {names : List String}
      (found : registry.rule? name = some rule) (inside : Leaves registry met rule names) :
      Leaves registry met (.ref name) names
  | undefined {name : String} (missing : registry.rule? name = none) :
      Leaves registry met (.ref name) []
  | sound {name : String} : Leaves registry met (.sound name) [name]

/-- The sounds that stand under some names, in the order of the names. -/
def Registry.named (registry : Registry) (names : List String) : List Sound :=
  names.filterMap registry.sound?

section

variable {σ π : Type} [SkinSource π]

/-- The conditions that are sure to be met are met at every lookup, and those met at one of them are
possible. -/
structure Car.Bounds (car : Car) (source : π) (sure possible : CarProperty → String → Prop) :
    Prop where
  sure : ∀ property value, sure property value → car.MeetsAlways source property value
  possible : ∀ property value, car.MeetsOnce source property value → possible property value

/-- Names account for what a rule did to a run: it put in their sounds, one after the other.
They are leaves past conditions that are possible. Where the rule ended without fault and no choice
between alternatives is reached from it, all leaves past conditions that are sure are among them. -/
structure Registry.Accounts (registry : Registry) (sure possible : CarProperty → String → Prop)
    (rule : Rule) (run : Run σ π) (outcome : Option EvaluationFault × Run σ π)
    (heard : List String) : Prop where
  sounds : outcome.2.sounds =
    (registry.named heard).foldl (fun set sound => sound.apply set) run.sounds
  possible : ∀ names, registry.Leaves possible rule names → heard.Sublist names
  sure : outcome.1 = none → (∀ choices, ¬ registry.Reached rule (.oneOf choices)) →
    ∀ names, registry.Leaves sure rule names → names.Sublist heard

namespace Car.Bounds

variable {car : Car} {source : π} {sure possible : CarProperty → String → Prop}

/-- What is met at every lookup is sure, and what is met at one of them is possible. -/
theorem of_meets (car : Car) (source : π) :
    car.Bounds source (car.MeetsAlways source) (car.MeetsOnce source) :=
  ⟨fun _ _ => id, fun _ _ => id⟩

/-- What is sure or possible stays so once the car was looked up. -/
theorem look (bounds : car.Bounds source sure possible) (property : CarProperty) :
    car.Bounds (SkinSource.look source car property) sure possible := by
  -- Each later answer is one that was to be had before.
  refine ⟨fun other value always earlier => ?_, fun other value once => ?_⟩
  · obtain ⟨before, same⟩ := SkinSource.exists_answer_look source car property earlier
    rw [← same]
    exact bounds.sure other value always before
  · obtain ⟨earlier, meets⟩ := once
    obtain ⟨before, same⟩ := SkinSource.exists_answer_look source car property earlier
    rw [← same] at meets
    exact bounds.possible other value ⟨before, meets⟩

end Car.Bounds

variable [DrawSource σ] {registry : Registry} {car : Car}
  {sure possible : CarProperty → String → Prop}

/-- What is sure or possible stays so throughout a walk. -/
theorem Registry.Walk.bounds {chain : List String} {rule : Rule} {run : Run σ π}
    {outcome : Option EvaluationFault × Run σ π} {moments : List (List String)}
    (walk : registry.Walk car chain rule run outcome moments)
    (bounds : car.Bounds run.skins sure possible) :
    car.Bounds outcome.2.skins sure possible := by
  -- Only conditions look a car up.
  induction walk with
  | nil | nothing | undefined => exact bounds
  | ended _ ih | chosen _ _ ih | ref _ _ ih => exact ih bounds
  | cons _ _ first_ih others_ih => exact others_ih (first_ih bounds)
  | holds _ _ ih =>
    rw [observe_run] at ih
    exact ih (bounds.look _)
  | fails =>
    rw [observe_run]
    exact bounds.look _
  | @sound _ name =>
    unfold Effect.ofSound
    cases registry.sound? name <;> exact bounds

end

namespace Registry

variable {registry : Registry} {met : CarProperty → String → Prop}

/-- Where no rule comes back to itself, the leaves of each rule can be listed. -/
theorem exists_leaves (acyclic : registry.rules.Acyclic) (met : CarProperty → String → Prop)
    (rule : Rule) : ∃ names, registry.Leaves met rule names := by
  -- At a reference stand the leaves that the rule of its name has already.
  induction rule using acyclic.induction with
  | allOf rules ih =>
    induction rules with
    | nil => exact ⟨_, .nil⟩
    | cons rule rest rest_ih =>
      obtain ⟨first, others⟩ := List.forall_mem_cons.mp ih
      obtain ⟨names, leaves⟩ := first
      obtain ⟨later, more⟩ := rest_ih others
      exact ⟨_, .cons leaves more⟩
  | oneOf choices ih =>
    induction choices with
    | nil => exact ⟨_, .noChoice⟩
    | cons choice rest rest_ih =>
      obtain ⟨first, others⟩ := List.forall_mem_cons.mp ih
      obtain ⟨names, leaves⟩ := first
      obtain ⟨later, more⟩ := rest_ih others
      exact ⟨_, .choice leaves more⟩
  | when property value rule ih =>
    by_cases condition : met property value
    · obtain ⟨names, leaves⟩ := ih
      exact ⟨names, .holds condition leaves⟩
    · exact ⟨_, .fails condition⟩
  | ref name ih =>
    cases found : registry.rule? name with
    | none => exact ⟨_, .undefined found⟩
    | some rule =>
      obtain ⟨names, leaves⟩ := ih rule found
      exact ⟨names, .ref found leaves⟩
  | sound name => exact ⟨_, .sound⟩

/-- The leaves of a rule are listed in one way only. -/
theorem Leaves.unique {rule : Rule} {names others : List String}
    (leaves : registry.Leaves met rule names) (again : registry.Leaves met rule others) :
    names = others := by
  -- At each condition and each name only one way goes on.
  induction leaves generalizing others with
  | nil | noChoice | sound =>
    cases again
    rfl
  | cons _ _ first_ih others_ih =>
    cases again with
    | cons first rest => rw [first_ih first, others_ih rest]
  | choice _ _ first_ih others_ih =>
    cases again with
    | choice first rest => rw [first_ih first, others_ih rest]
  | holds condition _ ih =>
    cases again with
    | holds _ inside => exact ih inside
    | fails failed => exact absurd condition failed
  | fails condition =>
    cases again with
    | holds held _ => exact absurd held condition
    | fails _ => rfl
  | ref found _ ih =>
    cases again with
    | ref known inside =>
      rw [found] at known
      cases known
      exact ih inside
    | undefined missing =>
      rw [found] at missing
      cases missing
  | undefined missing =>
    cases again with
    | ref found _ =>
      rw [missing] at found
      cases found
    | undefined _ => rfl

/-- The leaves of an alternative stand among those of the choice, in their order. -/
theorem Leaves.exists_of_mem {choices : List (Binary64 × Rule)} {choice : Binary64 × Rule}
    {names : List String} (leaves : registry.Leaves met (.oneOf choices) names)
    (member : choice ∈ choices) :
    ∃ own, registry.Leaves met choice.2 own ∧ own.Sublist names := by
  -- By induction on the alternatives; the choice lists its leaves one alternative after another.
  induction choices generalizing names with
  | nil => cases member
  | cons other rest ih =>
    obtain _ | _ | _ | ⟨first, others⟩ := leaves
    rcases List.mem_cons.mp member with rfl | later
    · exact ⟨_, first, List.sublist_append_left _ _⟩
    · obtain ⟨own, inside, among⟩ := ih others later
      exact ⟨own, inside, among.trans (List.sublist_append_right _ _)⟩

/-- The leaves of a reference are those of the rule found under its name. -/
theorem Leaves.of_ref {name : String} {rule : Rule} {names : List String}
    (leaves : registry.Leaves met (.ref name) names) (found : registry.rule? name = some rule) :
    registry.Leaves met rule names := by
  -- The name stands for one rule, so a reference cannot have its leaves in another way.
  cases leaves with
  | ref known inside =>
    rw [found] at known
    cases known
    exact inside
  | undefined missing =>
    rw [found] at missing
    cases missing

/-- What is reached from the later rules of a list is reached from the list. -/
theorem Reached.of_rest {rule part : Rule} {rest : List Rule}
    (reached : registry.Reached (.allOf rest) part) (other : part ≠ .allOf rest) :
    registry.Reached (.allOf (rule :: rest)) part := by
  -- Only the later rules as a list of their own are no part of the whole list.
  induction reached with
  | inside inner =>
    obtain ⟨later, member, found⟩ := (Rule.partOf_allOf_iff.mp inner).resolve_left other
    exact .inside (.allOf (.tail _ member) found)
  | follow _ found inner ih => exact .follow (ih (by simp)) found inner

/-- The sounds of names and of later ones are those of all of them, in turn. -/
theorem named_append (names later : List String) :
    registry.named (names ++ later) = registry.named names ++ registry.named later :=
  List.filterMap_append

section

variable {σ π : Type} {sure possible : CarProperty → String → Prop} {run next : Run σ π}
  {outcome : Option EvaluationFault × Run σ π} {rule : Rule} {rest : List Rule}
  {heard later : List String}

/-- Where the sounds stay as they are, no name accounts for a rule without a leaf sure to count. -/
theorem Accounts.of_unchanged (sounds : outcome.2.sounds = run.sounds)
    (leafless : outcome.1 = none → (∀ choices, ¬ registry.Reached rule (.oneOf choices)) →
      registry.Leaves sure rule []) : registry.Accounts sure possible rule run outcome [] where
  sounds := sounds
  possible names _ := List.nil_sublist names
  sure ended choices _ leaves := by
    -- Whatever leaves may be met, no names at all come in their order.
    rw [leaves.unique (leafless ended choices)]

/-- Names for the first rule of a list, and then those for the others, account for the list. -/
theorem Accounts.cons (first : registry.Accounts sure possible rule run (none, next) heard)
    (others : registry.Accounts sure possible (.allOf rest) next outcome later) :
    registry.Accounts sure possible (.allOf (rule :: rest)) run outcome (heard ++ later) where
  sounds := by
    -- Both lists are put end to end, and the leaves of a list of rules are made up alike.
    rw [others.sounds, first.sounds, named_append, List.foldl_append]
  possible names leaves := by
    cases leaves with
    | cons leaves more => exact (first.possible _ leaves).append (others.possible _ more)
  sure ended choices names leaves := by
    cases leaves with
    | cons leaves more =>
      -- A choice in either part would be one in the list.
      have here : ∀ choices, ¬ registry.Reached rule (.oneOf choices) := fun _ reached =>
        choices _ (reached.of_part (.allOf (.head _) .self))
      have there : ∀ choices, ¬ registry.Reached (.allOf rest) (.oneOf choices) :=
        fun _ reached => choices _ (reached.of_rest (by simp))
      exact (first.sure rfl here _ leaves).append (others.sure ended there _ more)

/-- The name of a sound accounts for it, whether there is one of that name or not. -/
theorem accounts_sound (registry : Registry) (name : String) (run : Run σ π) :
    registry.Accounts sure possible (.sound name) run (Effect.ofSound registry name run)
      [name] where
  sounds := by
    -- The one leaf of the rule is its own name, and a name that is not defined puts nothing in.
    unfold Effect.ofSound named
    cases found : registry.sound? name <;> simp [found, Effect.fail, Run.record]
  possible _ leaves := by
    cases leaves
    exact .refl _
  sure _ _ _ leaves := by
    cases leaves
    exact .refl _

/-- Where no sound was there before, each slot holds the last sound for it that is accounted for. -/
theorem Accounts.get?_eq (accounts : registry.Accounts sure possible rule run outcome heard)
    (fresh : run.sounds = .empty) (slot : Slot) :
    outcome.2.sounds.get? slot = ((registry.named heard).filter (·.slot = slot)).getLast? := by
  -- What the slot held before is nothing, so the last sound put into it is all it can hold.
  rw [accounts.sounds, fresh, SoundSet.get?_foldl_apply]
  exact Option.or_none

/-- Where no sound was there before, the slots filled are those of the sounds accounted for. -/
theorem Accounts.contains_iff (accounts : registry.Accounts sure possible rule run outcome heard)
    (fresh : run.sounds = .empty) (slot : Slot) :
    outcome.2.sounds.contains slot ↔
      ∃ name ∈ heard, ∃ sound, registry.sound? name = some sound ∧ sound.slot = slot := by
  -- A slot is filled by some sound put into it, as none was filled before.
  rw [accounts.sounds, fresh, SoundSet.contains_foldl_apply]
  simp only [named, List.mem_filterMap, SoundSet.contains, SoundSet.empty, List.any_nil,
    Bool.false_eq_true, or_false]
  constructor
  · rintro ⟨sound, ⟨name, member, found⟩, same⟩
    exact ⟨name, member, sound, found, same⟩
  · rintro ⟨name, member, sound, found, same⟩
    exact ⟨sound, ⟨name, member, found⟩, same⟩

/-- A sound found in a slot where there was none before is one for that slot, named by a name that
accounts for it. -/
theorem Accounts.of_get? (accounts : registry.Accounts sure possible rule run outcome heard)
    (fresh : run.sounds = .empty) {slot : Slot} {sound : Sound}
    (found : outcome.2.sounds.get? slot = some sound) :
    sound.slot = slot ∧ ∃ name ∈ heard, registry.sound? name = some sound := by
  -- The last of the sounds put into the slot is one of them, and each came from a name.
  rw [accounts.get?_eq fresh] at found
  obtain ⟨member, same⟩ := List.mem_filter.mp (List.mem_of_getLast? found)
  exact ⟨of_decide_eq_true same, List.mem_filterMap.mp member⟩

variable [DrawSource σ] [SkinSource π] {car : Car}

/-- What a walk does to the sounds is accounted for by some names. -/
theorem Walk.exists_accounts {chain : List String} {moments : List (List String)}
    (walk : registry.Walk car chain rule run outcome moments)
    (bounds : car.Bounds run.skins sure possible) :
    ∃ heard, registry.Accounts sure possible rule run outcome heard := by
  -- Each step adds the names that it comes to, and passes by no leaf that is sure.
  induction walk with
  | nil => exact ⟨_, .of_unchanged rfl fun _ _ => .nil⟩
  | ended _ ih =>
    -- The leaves of later rules are possible, but after a fault none has to count.
    obtain ⟨heard, accounts⟩ := ih bounds
    refine ⟨heard, accounts.sounds, fun names leaves => ?_, nofun⟩
    cases leaves with
    | cons first _ => exact (accounts.possible _ first).trans (List.sublist_append_left _ _)
  | cons first _ first_ih others_ih =>
    obtain ⟨heard, accounts⟩ := first_ih bounds
    obtain ⟨later, more⟩ := others_ih (first.bounds bounds)
    exact ⟨_, accounts.cons more⟩
  | chosen drawn _ ih =>
    -- The leaves of the alternative drawn are among those of all alternatives.
    obtain ⟨heard, accounts⟩ := ih bounds
    refine ⟨heard, accounts.sounds, fun names leaves => ?_, fun _ choices => ?_⟩
    · obtain ⟨own, inside, among⟩ := leaves.exists_of_mem (mem_of_drawnChoice? drawn)
      exact (accounts.possible own inside).trans among
    · exact absurd (.inside .self) (choices _)
  | nothing => exact ⟨_, .of_unchanged rfl fun _ choices => absurd (.inside .self) (choices _)⟩
  | holds condition _ ih =>
    have meets := holds_iff.mp condition
    rw [observe_run] at ih
    obtain ⟨heard, accounts⟩ := ih (bounds.look _)
    refine ⟨heard, accounts.sounds, fun names leaves => ?_, fun ended choices names leaves => ?_⟩
    · cases leaves with
      | holds _ inside => exact accounts.possible names inside
      | fails failed => exact absurd (bounds.possible _ _ ⟨0, meets⟩) failed
    · have within : ∀ choices, ¬ registry.Reached _ (.oneOf choices) := fun _ reached =>
        choices _ (reached.of_part (.when .self))
      cases leaves with
      | holds _ inside => exact accounts.sure ended within names inside
      | fails _ => exact List.nil_sublist heard
  | fails condition =>
    -- A condition that is sure would be met at the very lookup that it failed at.
    have failed := mt holds_iff.mpr condition
    refine ⟨_, .of_unchanged ?_ fun _ _ => .fails fun always => failed (bounds.sure _ _ always 0)⟩
    rw [observe_run]
  | ref found _ ih =>
    obtain ⟨heard, accounts⟩ := ih bounds
    refine ⟨heard, accounts.sounds, fun names leaves => ?_, fun ended choices names leaves => ?_⟩
    · exact accounts.possible names (leaves.of_ref found)
    · have within : ∀ choices, ¬ registry.Reached _ (.oneOf choices) := fun _ reached =>
        choices _ (reached.of_ref found)
      exact accounts.sure ended within names (leaves.of_ref found)
  | undefined missing => exact ⟨_, .of_unchanged rfl fun _ _ => .undefined missing⟩
  | sound => exact ⟨_, accounts_sound _ _ _⟩

/-- What applying a rule does to the sounds is accounted for by some names. -/
theorem exists_accounts (acyclic : registry.rules.Acyclic) (rule : Rule) (run : Run σ π)
    (bounds : car.Bounds run.skins sure possible) :
    ∃ heard, registry.Accounts sure possible rule run (registry.apply car rule run) heard := by
  -- The walk through the rule names what it puts in as it goes.
  obtain ⟨moments, walk, _⟩ := exists_walk_apply acyclic car rule run
  exact walk.exists_accounts bounds

/-- In a registry that was built, a root ends with a fault only where it stands for nothing, so that
its leaves sure to count are all accounted for unless a choice is reached. -/
theorem Accounts.sure_of_resolve {root : String} {heard names : List String}
    (accounts : registry.Accounts sure possible (.ref root) run
      (registry.applyNamed car root run) heard)
    (resolved : registry.resolve = .ok ())
    (choices : ∀ choices, ¬ registry.Reached (.ref root) (.oneOf choices))
    (leaves : registry.Leaves sure (.ref root) names) : names.Sublist heard := by
  -- A root that is defined comes to its end; one that is not stands for no leaf at all.
  by_cases defined : root ∈ registry.rules.names
  · obtain ⟨after, _, _, _, applied⟩ :=
      exists_walk_of_resolves resolved (resolves_ref_iff.mpr defined) car run
    have ended : (registry.applyNamed car root run).1 = none := congrArg Prod.fst applied
    exact accounts.sure ended choices names leaves
  · cases leaves with
    | ref found _ => exact absurd (mem_names_of_rule? found) defined
    | undefined _ => exact List.nil_sublist heard

/--
Each sound that is selected stands in the rules, past conditions that the car meets.

An evaluation that starts without sounds fills distinct slots, for any root, car, draws and skins.
The sound in a slot is one for that slot, is the one that the registry has under its name, and is
named by a leaf of the root all of whose conditions the car meets.
Where no choice between alternatives is reached from the root, every such leaf counts: a slot is
filled if one of them names a sound for it, and holds the sound of the last one that does.
A source that gives a car one skin now and another one later may be found at either. Even then no
leaf counts that is never met, and each counts that is always met.
-/
theorem sounds_from_leaves {rules sounds carTypes : Token}
    (built : build rules sounds carTypes = .ok registry) (root : String) (car : Car)
    (run : Run σ π) :
    let selected := (registry.applyNamed car root { run with sounds := .empty }).2.sounds
    selected.slots.Nodup ∧
    ∃ leaves, (∀ names, registry.Leaves (car.MeetsOnce run.skins) (.ref root) names ↔
        names = leaves) ∧
      (∀ skin, SkinSource.Answers run.skins car.carId skin →
        registry.Leaves (car.Meets skin) (.ref root) leaves) ∧
      (∀ slot sound, selected.get? slot = some sound →
        sound.slot = slot ∧ registry.sound? sound.name = some sound ∧ sound.name ∈ leaves) ∧
      ((∀ choices, ¬ registry.Reached (.ref root) (.oneOf choices)) →
        ∃ heard, heard.Sublist leaves ∧
          (∀ names, registry.Leaves (car.MeetsAlways run.skins) (.ref root) names →
            names.Sublist heard) ∧
          (∀ skin, SkinSource.Answers run.skins car.carId skin → heard = leaves) ∧
          ∀ slot,
            selected.get? slot = ((registry.named heard).filter (·.slot = slot)).getLast? ∧
            (selected.contains slot ↔
              ∃ name ∈ heard, ∃ sound, registry.sound? name = some sound ∧ sound.slot = slot)) := by
  -- The leaves met at least once bound the names from above, and those always met from below.
  intro selected
  obtain ⟨_, _, _, resolved⟩ := build_eq_ok_iff.mp built
  obtain ⟨_, acyclic⟩ := resolve_eq_ok_iff.mp resolved
  obtain ⟨heard, accounts⟩ := registry.exists_accounts acyclic (.ref root)
    { run with sounds := .empty } (.of_meets car run.skins)
  obtain ⟨names, leaves⟩ := exists_leaves acyclic (car.MeetsOnce run.skins) (.ref root)
  have among : heard.Sublist names := accounts.possible names leaves
  refine ⟨?_, names, fun others => ⟨fun again => again.unique leaves, ?_⟩,
    fun skin answers => ?_, fun slot sound found => ?_, fun choices => ?_⟩
  · have empty : SoundSet.empty.slots.Nodup := .nil
    have distinct := SoundSet.slots_nodup_foldl_apply (registry.named heard) empty
    rwa [← accounts.sounds] at distinct
  · rintro rfl
    exact leaves
  · rwa [Car.meetsOnce_eq answers] at leaves
  · obtain ⟨same, name, member, known⟩ := accounts.of_get? rfl found
    obtain rfl : sound.name = name := name_of_sound? built known
    exact ⟨same, known, among.subset member⟩
  · have whole : ∀ sure, registry.Leaves (car.MeetsAlways run.skins) (.ref root) sure →
        sure.Sublist heard := fun _ => accounts.sure_of_resolve resolved choices
    refine ⟨heard, among, whole, fun skin answers => ?_,
      fun slot => ⟨accounts.get?_eq rfl slot, accounts.contains_iff rfl slot⟩⟩
    -- Where the source always gives the same skin, what is met once is met always.
    rw [Car.meetsOnce_eq answers] at leaves
    rw [Car.meetsAlways_eq answers] at whole
    exact among.antisymm (whole names leaves)

end

/-- The registry of a root that selects horns, and then a chime for blue cars. -/
theorem build_chime :
    build
      (.mapping [
        (.text "root", .mapping [(.text "type", .text "AllOf"), (.text "rules", .list [
          .text "horns",
          .mapping [
            (.text "type", .text "If"), (.text "property", .text "SkinName"),
            (.text "value", .text "Blue"),
            (.text "rule",
              .mapping [(.text "type", .text "Sound"), (.text "name", .text "chime")])]])]),
        (.text "horns", .mapping [(.text "type", .text "Sound"), (.text "name", .text "horn")])])
      (.mapping [
        (.text "horn",
          .mapping [(.text "type", .text "HornHit"), (.text "filename", .text "a.ogg")]),
        (.text "chime",
          .mapping [(.text "type", .text "HornHit"), (.text "filename", .text "b.ogg")])])
      .null =
    .ok ⟨[("root", .allOf [.ref "horns", .when .skinName "Blue" (.sound "chime")]),
        ("horns", .sound "horn")],
      [("horn", ⟨"horn", .hornHit, ["a.ogg"], none, none, none, none, none⟩),
        ("chime", ⟨"chime", .hornHit, ["b.ogg"], none, none, none, none, none⟩)],
      Car.defaultTypes.map lowercase⟩ := by
  -- What was read is given part by part, and what is left is that it is coherent.
  rw [build_eq_ok_iff]
  refine ⟨.mapping (.cons ⟨rfl, rfl⟩ (.cons ⟨rfl, rfl⟩ .nil)),
    .mapping (.cons ⟨rfl, by decide +kernel⟩ (.cons ⟨rfl, by decide +kernel⟩ .nil)),
    ⟨Car.defaultTypes, rfl, rfl⟩, ?_⟩
  rw [resolve_eq_ok_iff_coherent rfl]
  refine ⟨by simp, by simp, by simp, ?_⟩
  -- The search comes from the root to the horns, which refer to nothing.
  rw [← NamedRules.findCycle?_eq_none_iff]
  simp [NamedRules.findCycle?, NamedRules.searchFrom, NamedRules.search, NamedRules.refsOf,
    NamedRules.names, List.lookup_cons, Rule.refs, Rule.refsOfAll]

/-- A blue car has the horn and the chime among its leaves, and the chime is the last of them. -/
theorem chime_selected_for_blue_car :
    let horn : Sound := ⟨"horn", .hornHit, ["a.ogg"], none, none, none, none, none⟩
    let chime : Sound := ⟨"chime", .hornHit, ["b.ogg"], none, none, none, none, none⟩
    let registry : Registry := ⟨
      [("root", .allOf [.ref "horns", .when .skinName "Blue" (.sound "chime")]),
        ("horns", .sound "horn")],
      [("horn", horn), ("chime", chime)], Car.defaultTypes.map lowercase⟩
    let run : Run SeededDraws FixedSkins := ⟨.ofSeed 1 "horns", ⟨[("L-1", "BLUE")]⟩, .empty, []⟩
    let selected := (registry.applyNamed ⟨"DE6", "L-1"⟩ "root" run).2.sounds
    registry.Leaves (Car.Meets ⟨"DE6", "L-1"⟩ (some "BLUE")) (.ref "root") ["horn", "chime"] ∧
      selected.slots.Nodup ∧ selected.get? .hornHit = some chime := by
  -- No choice is reached, and fixed skins give one answer, so the leaves are what is heard.
  intro horn chime registry run selected
  have blue : Car.Meets ⟨"DE6", "L-1"⟩ (some "BLUE") .skinName "Blue" := by
    have same : lowercase "BLUE" = lowercase "Blue" := by decide +kernel
    exact congrArg some same
  have answers : SkinSource.Answers run.skins "L-1" (some "BLUE") :=
    SkinSource.answers_fixedSkins run.skins "L-1"
  have leaves : registry.Leaves (Car.Meets ⟨"DE6", "L-1"⟩ (some "BLUE")) (.ref "root")
      ["horn", "chime"] :=
    .ref rfl (.cons (.ref rfl .sound) (.cons (.holds blue .sound) .nil))
  have choiceless : ∀ choices, ¬ registry.Reached (.ref "root") (.oneOf choices) := by
    intro choices reached
    have inside := reached.mem_rules
    simp [registry] at inside
  obtain ⟨distinct, names, _, met, _, whole⟩ :=
    sounds_from_leaves build_chime "root" ⟨"DE6", "L-1"⟩ run
  obtain ⟨heard, _, _, all, last⟩ := whole choiceless
  obtain rfl : heard = names := all _ answers
  obtain rfl : heard = ["horn", "chime"] := (met _ answers).unique leaves
  refine ⟨leaves, distinct, ?_⟩
  rw [(last .hornHit).1]
  rfl

end Registry

end LocoSounds
