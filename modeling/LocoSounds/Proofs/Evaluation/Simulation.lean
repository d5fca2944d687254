import LocoSounds.Proofs.Evaluation.Conditions
import LocoSounds.Proofs.Evaluation.Locality
import LocoSounds.Proofs.Registry.Pruning
import LocoSounds.Proofs.SoundSet

/-! Two evaluations side by side: the second may leave out some conditions of the first, or start from
other sounds. -/

namespace LocoSounds

section

variable {σ π ρ : Type}

/-- Two runs with the same draws and the same journal, whose skins and whose sounds are related. -/
structure Run.Beside (worn : π → ρ → Prop) (filled : SoundSet → SoundSet → Prop)
    (run : Run σ π) (other : Run σ ρ) : Prop where
  draws : run.draws = other.draws
  skins : worn run.skins other.skins
  sounds : filled run.sounds other.sounds
  journal : run.journal = other.journal

/-- Two effects do alike: from related runs they end alike and leave related runs. -/
def Effect.Alike (related : Run σ π → Run σ ρ → Prop) (effect : Effect σ π)
    (other : Effect σ ρ) : Prop :=
  ∀ run beside, related run beside →
    (effect run).1 = (other beside).1 ∧ related (effect run).2 (other beside).2

/-- A condition decides alike for two cars whose skins are looked up in related sources.
On a property that is dropped it never passes for the first car, and the second is not tested. -/
structure DecidesAlike [SkinSource π] [SkinSource ρ] (dropped : List CarProperty)
    (worn : π → ρ → Prop) (car owner : Car) (property : CarProperty) (value : String) : Prop where
  idle : property ∈ dropped → ∀ source other, worn source other →
    ¬ car.Meets (SkinSource.lookup source car.carId).1 property value ∧
      worn (SkinSource.look source car property) other
  kept : property ∉ dropped → ∀ source other, worn source other →
    (car.Meets (SkinSource.lookup source car.carId).1 property value ↔
      owner.Meets (SkinSource.lookup other owner.carId).1 property value) ∧
      worn (SkinSource.look source car property) (SkinSource.look other owner property)

/-- Putting the same sound into its slot on both sides leaves related sound sets related. -/
def Sound.Keeps (filled : SoundSet → SoundSet → Prop) : Prop :=
  ∀ (sound : Sound) (set other : SoundSet), filled set other →
    filled (sound.apply set) (sound.apply other)

section

variable {related : Run σ π → Run σ ρ → Prop}

/-- One effect after the other does alike where both do. -/
theorem Effect.Alike.andThen {first second : Effect σ π} {other later : Effect σ ρ}
    (firsts : Effect.Alike related first other) (seconds : Effect.Alike related second later) :
    Effect.Alike related (first.andThen second) (other.andThen later) := by
  -- The second effects are compared only where the first ones came to their end.
  intro run beside near
  have both := firsts run beside near
  unfold Effect.andThen
  -- Both firsts end with the same fault, or both go on from related runs.
  generalize first run = ended, other beside = stopped at both ⊢
  obtain ⟨fault, next⟩ := ended
  obtain ⟨problem, along⟩ := stopped
  obtain ⟨rfl, after⟩ : fault = problem ∧ related next along := both
  cases fault with
  | none => exact seconds next along after
  | some fault => exact ⟨rfl, after⟩

/-- Effects in order do alike where they do one by one. -/
theorem Effect.Alike.inOrder {effects : List (Effect σ π)} {others : List (Effect σ ρ)}
    (each : List.Forall₂ (Effect.Alike related) effects others) :
    Effect.Alike related (effects.foldr .andThen .done) (others.foldr .andThen .done) := by
  -- By induction along the two lists, from their ends.
  induction each with
  | nil => exact fun _ _ near => ⟨rfl, near⟩
  | cons first _ ih => exact first.andThen ih

end

variable {worn : π → ρ → Prop} {filled : SoundSet → SoundSet → Prop}

/-- The same event recorded on both sides leaves runs beside each other. -/
theorem Run.Beside.record {run : Run σ π} {other : Run σ ρ} (near : Beside worn filled run other)
    (event : Event) : Beside worn filled (run.record event) (other.record event) where
  draws := near.draws
  skins := near.skins
  sounds := near.sounds
  journal := congrArg (· ++ [event]) near.journal

/-- Two runs with the same skins differ in nothing but their sounds. -/
theorem Run.Beside.eq {filled : SoundSet → SoundSet → Prop} {run other : Run σ π}
    (near : Beside (· = ·) filled run other) : run = { other with sounds := run.sounds } := by
  -- All fields but the sounds are equal, so one run is the other with its sounds replaced.
  obtain ⟨draws, skins, _, journal⟩ := near
  rw [← draws, ← skins, ← journal]

/-- The same fault ends both sides alike. -/
theorem Effect.alike_fail (fault : EvaluationFault) (event : Event) :
    Effect.Alike (σ := σ) (Run.Beside worn filled) (.fail fault event) (.fail fault event) :=
  fun _ _ near => ⟨rfl, near.record event⟩

/-- The sound of a name does alike where it is the same sound. -/
theorem Effect.alike_ofSound {registry other : Registry} {name : String}
    (keeps : Sound.Keeps filled) (same : registry.sound? name = other.sound? name) :
    Effect.Alike (σ := σ) (Run.Beside worn filled) (.ofSound registry name)
      (.ofSound other name) := by
  -- Both registries answer alike for the name: with no sound, or with one that both put in.
  unfold Effect.ofSound
  rw [← same]
  cases registry.sound? name with
  | none => exact Effect.alike_fail _ _
  | some sound =>
    intro run beside near
    exact ⟨rfl, near.draws, near.skins, keeps sound _ _ near.sounds, near.journal⟩

section

variable [DrawSource σ]

/-- Runs beside each other draw the same number, so the same alternative. -/
theorem Run.Beside.draw {run : Run σ π} {other : Run σ ρ}
    (near : Beside worn filled run other) (weights : List Binary64) :
    (drawChoice weights run).1 = (drawChoice weights other).1 ∧
      Beside worn filled (drawChoice weights run).2 (drawChoice weights other).2 := by
  -- The draw is taken from the source, which is the same on both sides.
  unfold drawChoice
  rw [near.draws]
  exact ⟨rfl, rfl, near.skins, near.sounds, congrArg (· ++ [_]) near.journal⟩

/-- Taking out conditions keeps the weights of alternatives. -/
theorem map_weights_without (dropped : List CarProperty) (choices : List (Binary64 × Rule)) :
    (choices.map fun choice => (choice.1, choice.2.without dropped)).map (·.1) =
      choices.map (·.1) := by
  -- Only the rules of the alternatives are changed.
  rw [List.map_map]
  rfl

/-- Taking out conditions leaves the alternative drawn at its place. -/
theorem drawnChoice?_without (dropped : List CarProperty) {run : Run σ π}
    (choices : List (Binary64 × Rule)) :
    drawnChoice? (choices.map fun choice => (choice.1, choice.2.without dropped)) run =
      (drawnChoice? choices run).map fun choice => (choice.1, choice.2.without dropped) := by
  -- The index is drawn by the weights, which stay, and points to the changed alternative.
  unfold drawnChoice?
  rw [map_weights_without]
  cases (drawChoice (choices.map (·.1)) run).1 with
  | none => rfl
  | some index => exact List.getElem?_map

end

variable [SkinSource π] [SkinSource ρ] {car owner : Car} {dropped : List CarProperty}

/-- A condition that is kept does alike where what is under it does. -/
theorem DecidesAlike.guarded {property : CarProperty} {value : String} {effect : Effect σ π}
    {beneath : Effect σ ρ} (decides : DecidesAlike dropped worn car owner property value)
    (stays : property ∉ dropped) (inside : Effect.Alike (Run.Beside worn filled) effect beneath) :
    Effect.Alike (Run.Beside worn filled) (.guarded car property value effect)
      (.guarded owner property value beneath) := by
  -- The two sides decide alike, so both go on or neither does, with the skins they looked up.
  intro run beside near
  obtain ⟨same, looked⟩ := decides.kept stays _ _ near.skins
  have after : Run.Beside worn filled
      { run with skins := SkinSource.look run.skins car property }
      { beside with skins := SkinSource.look beside.skins owner property } :=
    ⟨near.draws, looked, near.sounds, near.journal⟩
  by_cases meets : car.Meets (SkinSource.lookup run.skins car.carId).1 property value
  · rw [Effect.guarded_of_meets meets, Effect.guarded_of_meets (same.mp meets)]
    exact inside _ _ after
  · rw [Effect.guarded_of_not_meets meets, Effect.guarded_of_not_meets (mt same.mpr meets)]
    exact ⟨rfl, after⟩

/-- A condition that is dropped does what nothing does. -/
theorem DecidesAlike.guarded_done {property : CarProperty} {value : String}
    (decides : DecidesAlike dropped worn car owner property value) (drops : property ∈ dropped)
    (effect : Effect σ π) :
    Effect.Alike (Run.Beside worn filled) (.guarded car property value effect) (.done) := by
  -- The test fails wherever the condition is dropped, and what it looked up may be left out.
  intro run beside near
  obtain ⟨fails, looked⟩ := decides.idle drops _ _ near.skins
  rw [Effect.guarded_of_not_meets fails]
  exact ⟨rfl, near.draws, looked, near.sounds, near.journal⟩

/-- Looked up in the same source for the same car, a condition that is kept decides alike. -/
theorem decidesAlike_of_eq {property : CarProperty} {value : String}
    (idle : property ∈ dropped → ∀ source : π,
      ¬ car.Meets (SkinSource.lookup source car.carId).1 property value ∧
        SkinSource.look source car property = source) :
    DecidesAlike (π := π) dropped (· = ·) car car property value where
  idle drops := by
    -- Equal sources stay equal, and the same car decides the same.
    rintro source _ rfl
    exact idle drops source
  kept _ := by
    rintro source _ rfl
    exact ⟨Iff.rfl, rfl⟩

variable [DrawSource σ] {registry other : Registry}

/-- A rule does alike with its dropped conditions taken out, where its other conditions decide alike
and what it refers to does alike. -/
theorem Rule.alike_without (keeps : Sound.Keeps filled)
    (sounds : ∀ name, registry.sound? name = other.sound? name) {rule : Rule}
    {call : String → Effect σ π} {again : String → Effect σ ρ}
    (conditions : ∀ property value inner, (Rule.when property value inner).PartOf rule →
      DecidesAlike dropped worn car owner property value)
    (calls : ∀ name, (Rule.ref name).PartOf rule →
      Effect.Alike (Run.Beside worn filled) (call name) (again name)) :
    Effect.Alike (Run.Beside worn filled) (rule.effect registry car call)
      ((rule.without dropped).effect other owner again) := by
  -- Both sides go down the same tree, but for what stands under a dropped condition.
  induction rule with
  | allOf rules ih =>
    rw [without, withoutInAll_eq, effect, effect, effectOfAll_eq, effectOfAll_eq, List.map_map]
    refine .inOrder (List.forall₂_map_left_iff.mpr (List.forall₂_map_right_iff.mpr ?_))
    refine List.forall₂_same.mpr fun rule member => ?_
    exact ih rule member
      (fun property value inner inside => conditions property value inner (.allOf member inside))
      fun name inside => calls name (.allOf member inside)
  | oneOf choices ih =>
    intro run beside near
    rw [without, withoutInChoices_eq, effect_oneOf_eq, effect_oneOf_eq, drawnChoice?_without,
      map_weights_without]
    obtain ⟨same, after⟩ := near.draw (choices.map (·.1))
    -- The same number is drawn, so the same alternative goes on.
    have drawn : drawnChoice? choices run = drawnChoice? choices beside := by
      rw [drawnChoice?, drawnChoice?, same]
    rw [← drawn]
    cases chosen : drawnChoice? choices run with
    | none => exact ⟨rfl, after⟩
    | some choice =>
      have member := mem_of_drawnChoice? chosen
      exact ih choice member
        (fun property value inner inside => conditions property value inner (.oneOf member inside))
        (fun name inside => calls name (.oneOf member inside)) _ _ after
  | when property value rule ih =>
    have decides := conditions property value rule .self
    rw [without, effect]
    split
    · rename_i drops
      exact decides.guarded_done drops _
    · rename_i stays
      exact decides.guarded stays (ih
        (fun property value inner inside => conditions property value inner (.when inside))
        fun name inside => calls name (.when inside))
  | ref name => exact calls name .self
  | sound name => exact Effect.alike_ofSound keeps (sounds name)

/-- The rule of a name does alike in the registry with its dropped conditions taken out, where all
other conditions that are reached decide alike. -/
theorem Registry.call_alike_without (keeps : Sound.Keeps filled) (chain : List String)
    (name : String) (conditions : ∀ property value inner,
      registry.Reached (.ref name) (.when property value inner) →
        DecidesAlike dropped worn car owner property value) :
    Effect.Alike (σ := σ) (Run.Beside worn filled) (registry.call car chain name)
      ((registry.without dropped).call owner chain name) := by
  -- The chain is the same on both sides, so a rule is entered on both or on neither.
  induction chain, name using Registry.call.induct registry with
  | case1 chain name missing =>
    have absent : (registry.without dropped).rule? name = none := by
      rw [rule?_without, missing, Option.map_none]
    rw [call_eq_fail missing, call_eq_fail absent]
    exact Effect.alike_fail _ _
  | case2 chain name rule found opened =>
    have again : (registry.without dropped).rule? name = some (rule.without dropped) := by
      rw [rule?_without, found, Option.map_some]
    rw [call_eq_reentered found opened, call_eq_reentered again opened]
    exact Effect.alike_fail _ _
  | case3 chain name rule found fresh ih =>
    have again : (registry.without dropped).rule? name = some (rule.without dropped) := by
      rw [rule?_without, found, Option.map_some]
    rw [call_eq found fresh, call_eq again fresh]
    refine Rule.alike_without keeps (registry.sound?_without dropped)
      (fun property value inner inside => ?_)
      fun next inside => ih next fun property value inner reached => ?_
    · exact conditions property value inner (.of_ref (.inside inside) found)
    · exact conditions property value inner ((reached.of_part inside).of_ref found)

/-- A rule does alike in the registry with its dropped conditions taken out, where all other
conditions that are reached decide alike. -/
theorem Registry.apply_alike_without (keeps : Sound.Keeps filled) (rule : Rule)
    (conditions : ∀ property value inner, registry.Reached rule (.when property value inner) →
      DecidesAlike dropped worn car owner property value) :
    Effect.Alike (σ := σ) (Run.Beside worn filled) (registry.apply car rule)
      ((registry.without dropped).apply owner (rule.without dropped)) :=
  Rule.alike_without keeps (registry.sound?_without dropped)
    (fun property value inner inside => conditions property value inner (.inside inside))
    fun name inside => registry.call_alike_without keeps [] name
      fun property value inner reached => conditions property value inner (reached.of_part inside)

end

section

variable {σ π : Type} [DrawSource σ] [SkinSource π]

/--
Evaluation into sounds that are there already lays over them what an evaluation into none leaves.

Both end alike, with the same fault if there is one, after the same draws and lookups, and with the
same journal.
Each slot that was filled by itself holds the sound that it got there, any other slot what it held.
Slots that were filled before keep their places, and new ones follow in the order they got.
-/
theorem Registry.apply_eq_overlay (registry : Registry) (car : Car) (rule : Rule) (run : Run σ π) :
    let alone := registry.apply car rule { run with sounds := .empty }
    let laid := run.sounds.overlay alone.2.sounds
    registry.apply car rule run = (alone.1, { alone.2 with sounds := laid }) ∧
      (∀ slot, laid.get? slot = (alone.2.sounds.get? slot).or (run.sounds.get? slot)) ∧
      laid.slots = run.sounds.slots ++ alone.2.sounds.slots.filter (!run.sounds.contains ·) := by
  -- This is the case of rules that do alike where one set of sounds lies over the other.
  intro alone laid
  -- A sound put in on both sides goes into the set that is laid over the sounds of the run.
  have keeps : Sound.Keeps fun set above => set = run.sounds.overlay above := by
    rintro sound _ above rfl
    exact SoundSet.insert_overlay _ _ _ _
  have alike : Effect.Alike
      (Run.Beside (σ := σ) (π := π) (· = ·) fun set above => set = run.sounds.overlay above)
      (registry.apply car rule) ((registry.without []).apply car (rule.without [])) :=
    registry.apply_alike_without keeps rule fun _ _ _ _ => decidesAlike_of_eq nofun
  rw [Registry.without_nil, Rule.without_nil] at alike
  have start : Run.Beside (· = ·) (fun set above => set = run.sounds.overlay above) run
      { run with sounds := .empty } := ⟨rfl, rfl, (SoundSet.overlay_empty _).symm, rfl⟩
  obtain ⟨fault, after⟩ := alike _ _ start
  refine ⟨Prod.ext fault ?_, SoundSet.get?_overlay _ _, SoundSet.slots_overlay _ _⟩
  rw [after.eq, after.sounds]

end

end LocoSounds
