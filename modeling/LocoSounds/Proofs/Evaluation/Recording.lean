import LocoSounds.Proofs.Evaluation.Conditions
import LocoSounds.Proofs.Evaluation.Locality

/-! What evaluation adds to the journal: events that are allowed one by one are allowed in a row. -/

namespace LocoSounds

/-- What may be recorded: the events that an effect adds to the journal, told along with the fault
that ends it if one does. -/
abbrev Recordable := Option EvaluationFault → List Event → Prop

/-- Nothing has to be recorded, and what may be recorded before an effect may stand before what may be
recorded by it. -/
structure Recordable.InRow (allowed : Recordable) : Prop where
  nil : allowed none []
  append : ∀ events fault later, allowed none events → allowed fault later →
    allowed fault (events ++ later)

section

variable {σ π : Type}

/-- An effect adds to the journal, but nothing that may not be recorded. -/
def Effect.Records (allowed : Recordable) (effect : Effect σ π) : Prop :=
  ∀ run, ∃ events, (effect run).2.journal = run.journal ++ events ∧ allowed (effect run).1 events

namespace Effect.Records

variable {allowed : Recordable}

/-- A fault is recorded by its event. -/
theorem fail {fault : EvaluationFault} {event : Event} (may : allowed (some fault) [event]) :
    (Effect.fail fault event : Effect σ π).Records allowed :=
  fun _ => ⟨[event], rfl, may⟩

variable (inRow : allowed.InRow)

include inRow

/-- An effect that leaves journals as they are records nothing. -/
theorem silent {effect : Effect σ π}
    (silent : ∀ run, (effect run).1 = none ∧ (effect run).2.journal = run.journal) :
    effect.Records allowed := by
  -- No event is what it records, which is allowed without a fault.
  intro run
  obtain ⟨ended, same⟩ := silent run
  exact ⟨[], by rw [same, List.append_nil], by rw [ended]; exact inRow.nil⟩

/-- A sound that is defined goes into its slot, and one that is not is recorded. -/
theorem ofSound {registry : Registry} {name : String}
    (missing : allowed (some (.noSuchSound name)) [.soundUndefined name]) :
    (Effect.ofSound registry name : Effect σ π).Records allowed := by
  -- The registry has the sound or not; only without it is something recorded.
  unfold Effect.ofSound
  cases registry.sound? name with
  | none => exact fail missing
  | some sound => exact silent inRow fun _ => ⟨rfl, rfl⟩

/-- Two effects, one after the other, record in a row what each of them records. -/
theorem andThen {first second : Effect σ π} (firsts : first.Records allowed)
    (seconds : second.Records allowed) : (first.andThen second).Records allowed := by
  -- The first either ends with a fault or hands its run on to the second.
  intro run
  obtain ⟨events, recorded, may⟩ := firsts run
  unfold Effect.andThen
  generalize first run = outcome at recorded may ⊢
  obtain ⟨_ | fault, next⟩ := outcome
  · obtain ⟨later, added, others⟩ := seconds next
    have recorded : next.journal = run.journal ++ events := recorded
    exact ⟨events ++ later, by rw [added, recorded, List.append_assoc],
      inRow.append _ _ _ may others⟩
  · -- The fault of the first keeps the second from being done.
    exact ⟨events, recorded, may⟩

/-- Effects in order record in a row what each of them records. -/
theorem inOrder {effects : List (Effect σ π)} (each : ∀ effect ∈ effects, effect.Records allowed) :
    (effects.foldr .andThen .done : Effect σ π).Records allowed := by
  -- By induction on the effects, from the last one to the first.
  induction effects with
  | nil => exact silent inRow fun _ => ⟨rfl, rfl⟩
  | cons first rest ih =>
    obtain ⟨firsts, others⟩ := List.forall_mem_cons.mp each
    exact firsts.andThen inRow (ih others)

/-- A condition records nothing of its own. -/
theorem guarded [SkinSource π] {effect : Effect σ π} (inside : effect.Records allowed) (car : Car)
    (property : CarProperty) (value : String) :
    (Effect.guarded car property value effect).Records allowed := by
  -- Whether or not the test passes, it adds no event.
  intro run
  by_cases meets : car.Meets (SkinSource.lookup run.skins car.carId).1 property value
  · rw [Effect.guarded_of_meets meets]
    exact inside _
  · rw [Effect.guarded_of_not_meets meets]
    exact ⟨[], (List.append_nil _).symm, inRow.nil⟩

end Effect.Records

variable [DrawSource σ]

/-- A draw is recorded with what it chose. -/
theorem drawChoice_journal (weights : List Binary64) (run : Run σ π) : ∃ bounds draw,
    (drawChoice weights run).2.journal =
      run.journal ++ [.chosen weights bounds draw (drawChoice weights run).1] :=
  ⟨_, _, rfl⟩

/-- What the draw of a choice is recorded by may be recorded. -/
def Recordable.Draws (allowed : Recordable) (σ π : Type) [DrawSource σ] (rule : Rule) : Prop :=
  ∀ choices, (Rule.oneOf choices).PartOf rule → ∀ (run : Run σ π) bounds draw,
    allowed none
      [.chosen (choices.map (·.1)) bounds draw (drawChoice (choices.map (·.1)) run).1]

variable [SkinSource π] {registry : Registry} {car : Car} {allowed : Recordable}

/-- A rule records what may be recorded where its draws, the lack of a sound and what it refers to
do. -/
theorem Rule.records (inRow : allowed.InRow)
    (missing : ∀ name, allowed (some (.noSuchSound name)) [.soundUndefined name]) {rule : Rule}
    (draws : allowed.Draws σ π rule) {call : String → Effect σ π}
    (calls : ∀ name, (call name).Records allowed) :
    (rule.effect registry car call).Records allowed := by
  -- By induction on the rule; only a draw, a missing sound and a reference record anything.
  induction rule with
  | allOf rules ih =>
    rw [effect, effectOfAll_eq]
    refine .inOrder inRow (List.forall_mem_map.mpr fun rule member => ?_)
    exact ih rule member fun choices inside => draws choices (.allOf member inside)
  | oneOf choices ih =>
    intro run
    -- The draw itself comes before what the alternative records.
    obtain ⟨bounds, draw, before⟩ := drawChoice_journal (choices.map (·.1)) run
    have may := draws choices .self run bounds draw
    rw [effect_oneOf_eq]
    cases drawn : drawnChoice? choices run with
    | none => exact ⟨_, before, may⟩
    | some choice =>
      have member := mem_of_drawnChoice? drawn
      obtain ⟨events, recorded, others⟩ :=
        ih choice member (fun others inside => draws others (.oneOf member inside))
          (drawChoice (choices.map (·.1)) run).2
      exact ⟨_, by rw [recorded, before, List.append_assoc], inRow.append _ _ _ may others⟩
  | when property value rule ih =>
    rw [effect]
    exact (ih fun choices inside => draws choices (.when inside)).guarded inRow car property value
  | ref name => exact calls name
  | sound name => exact .ofSound inRow (missing name)

/-- The rule of a name records what may be recorded where the draws of every rule and each fault do. -/
theorem Registry.call_records (inRow : allowed.InRow)
    (noSound : ∀ name, allowed (some (.noSuchSound name)) [.soundUndefined name])
    (noRule : ∀ name, allowed (some (.noSuchRule name)) [.ruleUndefined name])
    (again : ∀ name, allowed (some (.reentered name)) [.ruleReentered name])
    (draws : ∀ entry ∈ registry.rules, allowed.Draws σ π entry.2)
    (chain : List String) (name : String) :
    (registry.call car chain name : Effect σ π).Records allowed := by
  -- Each rule entered leaves fewer that are not open.
  induction chain, name using Registry.call.induct registry with
  | case1 chain name missing =>
    rw [call_eq_fail missing]
    exact .fail (noRule name)
  | case2 chain name rule found opened =>
    rw [call_eq_reentered found opened]
    exact .fail (again name)
  | case3 chain name rule found fresh ih =>
    rw [call_eq found fresh]
    exact Rule.records inRow noSound (draws _ (mem_rules_of_rule? found)) ih

end

end LocoSounds
