import LocoSounds.Proofs.Evaluation.Walk

/-! Rules with the rules that they refer to put in place of the references. -/

namespace LocoSounds

/-- A rule beside the same rule without references: in place of each of them stands the rule of its
name, in which the references have been replaced as well. -/
inductive Registry.Inlines (registry : Registry) : Rule → Rule → Prop where
  | allOf {rules flats : List Rule} (each : List.Forall₂ (Inlines registry) rules flats) :
      Inlines registry (.allOf rules) (.allOf flats)
  | oneOf {choices flats : List (Binary64 × Rule)} (weights : choices.map (·.1) = flats.map (·.1))
      (each : List.Forall₂ (fun choice flat => Inlines registry choice.2 flat.2) choices flats) :
      Inlines registry (.oneOf choices) (.oneOf flats)
  | when {property : CarProperty} {value : String} {rule flat : Rule}
      (inside : Inlines registry rule flat) :
      Inlines registry (.when property value rule) (.when property value flat)
  | ref {name : String} {rule flat : Rule} (found : registry.rule? name = some rule)
      (inside : Inlines registry rule flat) : Inlines registry (.ref name) flat
  | sound {name : String} : Inlines registry (.sound name) (.sound name)

namespace Registry

variable {registry : Registry}

/-- Where no rule comes back to itself, the references of a rule that resolves can be replaced. -/
theorem exists_inlines (acyclic : registry.rules.Acyclic)
    (others : ∀ entry ∈ registry.rules, registry.Resolves entry.2) (rule : Rule)
    (resolves : registry.Resolves rule) : ∃ flat, registry.Inlines rule flat := by
  -- In place of a reference comes what the rule of its name has become already.
  induction rule using acyclic.induction with
  | allOf rules ih =>
    choose! flat inlines using fun rule member => ih rule member (resolves.part (.allOf member))
    exact ⟨.allOf (rules.map flat),
      .allOf (List.forall₂_map_right_iff.mpr (List.forall₂_same.mpr inlines))⟩
  | oneOf choices ih =>
    choose! flat inlines using fun choice member => ih choice member (resolves.part (.oneOf member))
    exact ⟨.oneOf (choices.map fun choice => (choice.1, flat choice)),
      .oneOf (by simp) (List.forall₂_map_right_iff.mpr (List.forall₂_same.mpr inlines))⟩
  | when property value rule ih =>
    obtain ⟨flat, inlines⟩ := ih (resolves.part .when)
    exact ⟨_, .when inlines⟩
  | ref name ih =>
    obtain ⟨rule, found⟩ := NamedRules.mem_names_iff.mp (resolves_ref_iff.mp resolves)
    obtain ⟨flat, inlines⟩ := ih rule found (others _ (mem_rules_of_rule? found))
    exact ⟨flat, .ref found inlines⟩
  | sound name => exact ⟨_, .sound⟩

/-- There is one rule at most that replacing the references of a rule can give. -/
theorem Inlines.unique (acyclic : registry.rules.Acyclic) {rule flat other : Rule}
    (inlines : registry.Inlines rule flat) (again : registry.Inlines rule other) :
    flat = other := by
  -- The form of the rule leaves one form for what stands beside it.
  induction rule using acyclic.induction generalizing flat other with
  | allOf rules ih =>
    obtain ⟨each⟩ := inlines
    obtain ⟨more⟩ := again
    have same := forall₂_of_forall₂ each more fun rule member _ _ => ih rule member
    rw [List.forall₂_eq_eq_eq] at same
    rw [same]
  | oneOf choices ih =>
    obtain _ | @⟨_, flats, weights, each⟩ := inlines
    obtain _ | @⟨_, others, rates, more⟩ := again
    have same := forall₂_of_forall₂ each more fun choice member _ _ => ih choice member
    -- The alternatives agree in their rules, and in their weights with those that they stand for.
    have inside : flats.map (·.2) = others.map (·.2) := by
      rw [← List.forall₂_eq_eq_eq, List.forall₂_map_left_iff, List.forall₂_map_right_iff]
      exact same
    rw [List.zip_of_prod (weights.symm.trans rates) inside, ← List.zip_of_prod rfl rfl]
  | when property value rule ih =>
    obtain _ | _ | inside := inlines
    obtain _ | _ | more := again
    rw [ih inside more]
  | ref name ih =>
    obtain _ | _ | _ | ⟨found, inside⟩ := inlines
    obtain _ | _ | _ | ⟨known, more⟩ := again
    rw [found] at known
    cases known
    exact ih _ found inside more
  | sound name =>
    cases inlines
    cases again
    rfl

/-- Replacing the references of a rule leaves none. -/
theorem Inlines.not_partOf (acyclic : registry.rules.Acyclic) {rule flat : Rule}
    (inlines : registry.Inlines rule flat) (name : String) : ¬ (Rule.ref name).PartOf flat := by
  -- The only place where a reference could stand is taken by a rule without any.
  induction rule using acyclic.induction generalizing flat with
  | allOf rules ih =>
    obtain ⟨each⟩ := inlines
    have none := forall_mem_of_forall₂ (fun flat => ¬ (Rule.ref name).PartOf flat) each
      fun rule member _ => ih rule member
    simpa using none
  | oneOf choices ih =>
    obtain _ | ⟨_, each⟩ := inlines
    have none := forall_mem_of_forall₂
      (fun flat : Binary64 × Rule => ¬ (Rule.ref name).PartOf flat.2) each
      fun choice member _ => ih choice member
    simpa using none
  | when property value rule ih =>
    obtain _ | _ | inside := inlines
    simpa using ih inside
  | ref other ih =>
    obtain _ | _ | _ | ⟨found, inside⟩ := inlines
    exact ih _ found inside
  | sound other =>
    cases inlines
    simp

/-- Alternatives with their references replaced are drawn like those that they stand for. -/
theorem rel_drawnChoice? {σ π : Type} [DrawSource σ] {choices flats : List (Binary64 × Rule)}
    (weights : choices.map (·.1) = flats.map (·.1))
    (each : List.Forall₂ (fun choice flat => registry.Inlines choice.2 flat.2) choices flats)
    (run : Run σ π) : Option.Rel (fun choice flat => registry.Inlines choice.2 flat.2)
      (drawnChoice? choices run) (drawnChoice? flats run) := by
  -- The number drawn and the thresholds are those of the weights, which are the same.
  unfold drawnChoice?
  rw [weights]
  cases (drawChoice (flats.map (·.1)) run).1 with
  | none => exact .none
  | some index => exact rel_getElem?_of_forall₂ each index

variable {σ π : Type} [DrawSource σ] [SkinSource π]

/-- A walk through a rule is one through the rule with its references replaced, where none is left
to be followed. -/
theorem Walk.inlined {car : Car} {chain : List String} {rule flat : Rule} {run : Run σ π}
    {outcome : Option EvaluationFault × Run σ π} {moments : List (List String)}
    (walk : registry.Walk car chain rule run outcome moments)
    (inlines : registry.Inlines rule flat) : registry.Walk car [] flat run outcome [] := by
  -- Both walks take the same steps, except where the first one follows a reference.
  induction walk generalizing flat with
  | nil =>
    obtain ⟨⟨⟩⟩ := inlines
    exact .nil
  | ended _ ih =>
    obtain ⟨each⟩ := inlines
    cases each with
    | cons first _ => exact .ended (ih first)
  | cons _ _ first_ih others_ih =>
    obtain ⟨each⟩ := inlines
    cases each with
    | cons first rest => exact .cons (first_ih first) (others_ih (.allOf rest))
  | @chosen _ choices _ run _ _ drawn _ ih =>
    obtain _ | @⟨_, flats, weights, each⟩ := inlines
    have beside := rel_drawnChoice? weights each run
    rw [drawn] at beside
    cases drew : drawnChoice? flats run with
    | none =>
      rw [drew] at beside
      cases beside
    | some flat =>
      rw [drew] at beside
      obtain ⟨inside⟩ := beside
      exact .chosen drew (weights ▸ ih inside)
  | @nothing _ choices run drawn =>
    obtain _ | @⟨_, flats, weights, each⟩ := inlines
    have beside := rel_drawnChoice? weights each run
    rw [drawn] at beside
    cases drew : drawnChoice? flats run with
    | none =>
      rw [weights]
      exact .nothing drew
    | some flat =>
      rw [drew] at beside
      cases beside
  | holds condition _ ih =>
    obtain _ | _ | inside := inlines
    exact .holds condition (ih inside)
  | fails condition =>
    cases inlines
    exact .fails condition
  | ref found _ ih =>
    -- The rule that the reference leads to is the one put in its place.
    obtain _ | _ | _ | ⟨known, inside⟩ := inlines
    rw [found] at known
    cases known
    exact ih inside
  | undefined missing =>
    obtain _ | _ | _ | ⟨found, _⟩ := inlines
    rw [missing] at found
    cases found
  | sound =>
    cases inlines
    exact .sound

end Registry

/--
References stand for nothing but the rules that they name.

In a rule that resolves they can all be replaced, which gives one rule, without references.
For whatever car, draws, skins and sounds, applying that rule does what applying the first one does:
the numbers drawn, the sounds in the order of their slots and the journal of draws are the same.
-/
theorem Registry.apply_eq_inlined {registry : Registry} {rule : Rule} {location : Location}
    (resolved : registry.resolve = .ok ())
    (accepted : rule.resolve registry location = .ok ()) :
    ∃ flat, (∀ other, registry.Inlines rule other ↔ other = flat) ∧
      (∀ name, ¬ (Rule.ref name).PartOf flat) ∧
      ∀ (σ π : Type) [DrawSource σ] [SkinSource π] (car : Car) (run : Run σ π),
        registry.apply car rule run = registry.apply car flat run := by
  -- The rule in place of it exists and is the only one, since no name leads back to itself.
  obtain ⟨others, acyclic⟩ := resolve_eq_ok_iff.mp resolved
  have resolves := Rule.resolve_eq_ok_iff.mp accepted
  obtain ⟨flat, inlines⟩ := exists_inlines acyclic others rule resolves
  refine ⟨flat, fun other => ⟨fun again => again.unique acyclic inlines, ?_⟩,
    inlines.not_partOf acyclic, fun σ π _ _ car run => ?_⟩
  · rintro rfl
    exact inlines
  · -- The walk through the rule is one through the rule without references, which notes no moment.
    obtain ⟨after, moments, walk, _, applied⟩ := exists_walk_of_resolves resolved resolves car run
    have same : registry.apply car flat run = (none, after) :=
      (walk.inlined inlines).effect_eq (by simp)
    rw [applied, same]

/-- A rule that is named twice is put in place twice. -/
theorem Registry.apply_horns_inlined :
    let registry : Registry := ⟨
      [("root", .oneOf [(.one, .ref "horns")]), ("horns", .when .carType "DE6" (.sound "horn"))],
      [("horn", ⟨"horn", .hornHit, ["a.ogg"], none, none, none, none, none⟩)], ["de6"]⟩
    let flat : Rule := .when .carType "DE6" (.sound "horn")
    registry.resolve = .ok () ∧
      (registry.apply ⟨"DE6", "L-1"⟩ (.allOf [.ref "root", .ref "horns"]) :
        Effect SeededDraws FixedSkins) =
      registry.apply ⟨"DE6", "L-1"⟩ (.allOf [.oneOf [(.one, flat)], flat]) := by
  -- The registry resolves, and the rule that is put in place can be written down.
  intro registry flat
  have known : lowercase "DE6" = "de6" := by decide +kernel
  have acyclic : registry.rules.Acyclic := by
    rw [← NamedRules.findCycle?_eq_none_iff]
    simp [registry, NamedRules.findCycle?, NamedRules.searchFrom, NamedRules.search,
      NamedRules.refsOf, NamedRules.names, List.lookup_cons, Rule.refs, Rule.refsOfChoices]
  have resolved : registry.resolve = .ok () := by
    rw [resolve_eq_ok_iff]
    refine ⟨?_, acyclic⟩
    simp [registry, resolves_oneOf_iff, resolves_when_iff, resolves_ref_iff, resolves_sound_iff,
      NamedRules.names, known]
  have accepted :
      Rule.resolve registry .document (.allOf [.ref "root", .ref "horns"]) = .ok () := rfl
  obtain ⟨whole, only, _, same⟩ := apply_eq_inlined resolved accepted
  have horns : registry.Inlines (.ref "horns") flat := .ref rfl (.when .sound)
  have root : registry.Inlines (.ref "root") (.oneOf [(.one, flat)]) :=
    .ref rfl (.oneOf rfl (.cons horns .nil))
  have inlined := (only _).mp (.allOf (.cons root (.cons horns .nil)))
  refine ⟨resolved, ?_⟩
  funext run
  rw [inlined]
  exact same SeededDraws FixedSkins ⟨"DE6", "L-1"⟩ run

end LocoSounds
