import LocoSounds.Proofs.Evaluation.Recording
import LocoSounds.Proofs.Selector.EntryPoints

/-! How faults of evaluations are reported: each by one error, which is the last event recorded. -/

namespace LocoSounds

/-- The event that reports a fault. Of a registry that is missing none tells. -/
def EvaluationFault.event? : EvaluationFault → Option Event
  | .noSuchRule name => some (.ruleUndefined name)
  | .noSuchSound name => some (.soundUndefined name)
  | .reentered name => some (.ruleReentered name)
  | .notLoaded => none

/-- Events report a fault, or that there is none: the event of the fault is the last of them, and no
other is an error. -/
inductive Reported : Recordable where
  | quiet {events : List Event} (calm : ∀ event ∈ events, event.level ≠ .error) :
      Reported none events
  | fault {fault : EvaluationFault} {event : Event} {before : List Event}
      (reports : fault.event? = some event) (calm : ∀ event ∈ before, event.level ≠ .error) :
      Reported (some fault) (before ++ [event])

/-- The event that reports a fault is an error. -/
theorem EvaluationFault.level_of_event? {fault : EvaluationFault} {event : Event}
    (reports : fault.event? = some event) : event.level = .error := by
  -- Each fault that has an event has one of the level of errors.
  cases fault <;> cases reports <;> rfl

namespace Reported

variable {fault : Option EvaluationFault} {events : List Event}

/-- There is a fault where there is an error among the events. -/
theorem ne_none_iff (reported : Reported fault events) :
    fault ≠ none ↔ ∃ event ∈ events, event.level = .error := by
  -- Either all events are calm and there is no fault, or the last one is the error of the fault.
  cases reported with
  | quiet calm =>
    refine ⟨fun fails => absurd rfl fails, ?_⟩
    rintro ⟨event, member, error⟩
    exact absurd error (calm event member)
  | @fault fault event before reports calm =>
    refine ⟨fun _ => ⟨event, ?_, EvaluationFault.level_of_event? reports⟩, fun _ => nofun⟩
    exact List.mem_append_right _ (List.mem_singleton.mpr rfl)

/-- Events that are no errors may come before those that report a fault. -/
theorem inRow : Recordable.InRow Reported where
  nil := .quiet fun _ member => absurd member List.not_mem_nil
  append := by
    -- Calm events before a report make up a report again.
    rintro events fault later ⟨calm⟩ (⟨others⟩ | ⟨reports, others⟩)
    · exact .quiet (List.forall_mem_append.mpr ⟨calm, others⟩)
    · rw [← List.append_assoc]
      exact .fault reports (List.forall_mem_append.mpr ⟨calm, others⟩)

/-- A fault is reported by its event alone. -/
theorem single {fault : EvaluationFault} {event : Event} (reports : fault.event? = some event) :
    Reported (some fault) [event] :=
  @Reported.fault _ _ [] reports fun _ member => absurd member List.not_mem_nil

end Reported

section

variable {σ π : Type} [DrawSource σ] [SkinSource π]

omit [SkinSource π] in
/-- No draw is an error. -/
theorem Reported.draws (rule : Rule) : Recordable.Draws Reported σ π rule :=
  fun _ _ _ _ _ => .quiet (List.forall_mem_singleton.mpr nofun)

/-- The rule of a name reports the fault that ends it. -/
theorem Registry.applyNamed_reported (registry : Registry) (car : Car) (name : String) :
    (registry.applyNamed car name : Effect σ π).Records Reported :=
  -- Every place where a fault comes up records the event of that fault.
  Registry.call_records Reported.inRow (fun _ => .single rfl) (fun _ => .single rfl)
    (fun _ => .single rfl) (fun entry _ => Reported.draws entry.2) [] name

/-- A selection reports the fault that ends it. What was selected is told as no error. -/
theorem Registry.select_reported (registry : Registry) (car : Car) (name : String) :
    (registry.select car name : Effect σ π).Records Reported := by
  -- The root reports its own fault, and a selection that succeeds adds an event that is calm.
  intro run
  obtain ⟨events, recorded, reported⟩ :=
    registry.applyNamed_reported car name { run with sounds := .empty }
  unfold Registry.select
  generalize registry.applyNamed car name { run with sounds := .empty } = outcome
    at recorded reported ⊢
  obtain ⟨_ | fault, after⟩ := outcome
  · -- What was selected is told in the end, and not as an error.
    refine ⟨events ++ [.selected car after.sounds.names], ?_, ?_⟩
    · rw [← List.append_assoc, ← recorded]
      rfl
    · exact Reported.inRow.append _ _ _ reported (.quiet (List.forall_mem_singleton.mpr nofun))
  · exact ⟨events, recorded, reported⟩

/-- A request asks for an evaluation. -/
inductive Request.Evaluates : Request → Prop where
  | apply (root : String) (car : Car) (sounds : SoundSet) : Evaluates (.apply root car sounds)
  | select (car : Car) (root : Option String) : Evaluates (.select car root)

/-- The fault that an answer gives, if it gives one. -/
def Answer.fault? : Answer → Option EvaluationFault
  | .applied fault _ => fault
  | .selected (.error fault) => some fault
  | _ => none

/-- With an active registry, a request for an evaluation is answered along with a report of its
fault. -/
theorem Selector.answer_reported {selector : Selector σ π} {registry : Registry}
    (active : selector.registry = some registry) {request : Request} (evaluates : request.Evaluates) :
    ∃ events, (selector.answer request).2.journal = selector.journal ++ events ∧
      Reported (selector.answer request).1.fault? events := by
  -- Both requests come down to a run of the active registry, which reports its fault.
  cases evaluates with
  | apply root car sounds =>
    rw [answer, Selector.apply, run_eq active]
    exact registry.applyNamed_reported car root (selector.start sounds)
  | select car root =>
    obtain ⟨events, recorded, reported⟩ :=
      registry.select_reported car (selector.rootOr root) (selector.start .empty)
    rw [answer, select_eq, run_eq active]
    generalize registry.select car (selector.rootOr root) (selector.start .empty) = outcome
      at recorded reported ⊢
    obtain ⟨_ | fault, after⟩ := outcome <;> exact ⟨events, recorded, reported⟩

/--
Each fault of an evaluation is reported once, and nothing else is recorded as an error.

Where a registry is active, a request to apply or to select is answered with a fault exactly where an
error is recorded. That error is the last event recorded for the request, the one that belongs to the
fault, and the only error among them.
Where no registry is active, the request is answered with that as its fault. Then nothing at all is
recorded, and the selector stays as it is.
-/
theorem Selector.faults_reported (selector : Selector σ π) {request : Request}
    (evaluates : request.Evaluates) :
    let answered := selector.answer request
    (selector.loaded → ∃ events, answered.2.journal = selector.journal ++ events ∧
      (answered.1.fault? ≠ none ↔ ∃ event ∈ events, event.level = .error) ∧
      ∀ fault, answered.1.fault? = some fault → ∃ before event, events = before ++ [event] ∧
        fault.event? = some event ∧ event.level = .error ∧
        ∀ earlier ∈ before, earlier.level ≠ .error) ∧
    (selector.loaded = false → answered.1.fault? = some .notLoaded ∧ answered.2 = selector) := by
  -- A selector that is loaded runs its registry, and one that is not answers before it runs
  -- anything.
  intro answered
  refine ⟨fun loaded => ?_, fun empty => ?_⟩
  · obtain ⟨registry, active⟩ := Option.isSome_iff_exists.mp loaded
    obtain ⟨events, recorded, reported⟩ := answer_reported active evaluates
    refine ⟨events, recorded, reported.ne_none_iff, fun fault fails => ?_⟩
    rw [fails] at reported
    cases reported with
    | fault reports calm =>
      exact ⟨_, _, rfl, reports, EvaluationFault.level_of_event? reports, calm⟩
  · have none : selector.registry = none := by simpa [Selector.loaded] using empty
    have idle : selector.active = .error .notLoaded := by rw [Selector.active, none]
    cases evaluates with
    | apply root car sounds => simp [answered, answer, Selector.apply, run, idle, Answer.fault?]
    | select car root => simp [answered, answer, select_eq, run, idle, Answer.fault?]

end

/-- A whistle that is not defined is reported by the last event of the selection that leads to it. -/
theorem Selector.whistle_reported :
    let registry : Registry := ⟨[("root", .ref "whistle")], [], ["de6"]⟩
    let selector : Selector SeededDraws FixedSkins :=
      ⟨some registry, "root", .ofSeed 1 "horns", ⟨[]⟩, []⟩
    let request : Request := .select ⟨"DE6", "L-1"⟩ none
    let answered := selector.answer request
    selector.loaded ∧ request.Evaluates ∧ answered.1.fault? = some (.noSuchRule "whistle") ∧
      ∃ before, answered.2.journal = before ++ [.ruleUndefined "whistle"] ∧
        ∀ earlier ∈ before, earlier.level ≠ .error := by
  -- The fault of the selection is computed, and the report of it is the general one.
  intro registry selector request answered
  have evaluates : request.Evaluates := .select _ _
  obtain ⟨events, recorded, _, reports⟩ := (selector.faults_reported evaluates).1 rfl
  -- The root is a reference to a name of no rule.
  have root : registry.rule? "root" = some (.ref "whistle") := rfl
  have applied : (registry.applyNamed ⟨"DE6", "L-1"⟩ "root" : Effect SeededDraws FixedSkins) =
      .fail (.noSuchRule "whistle") (.ruleUndefined "whistle") :=
    (Registry.call_eq root List.not_mem_nil).trans (Registry.call_eq_fail rfl)
  have fails : answered.1.fault? = some (.noSuchRule "whistle") := by
    simp only [answered, request, answer, select_eq, run_eq (rfl : selector.registry = some registry),
      Registry.select, rootOr, selector, applied, Effect.fail, Option.elim_some, Answer.fault?]
  obtain ⟨before, event, split, is, _, calm⟩ := reports _ fails
  cases is
  exact ⟨rfl, evaluates, fails, before, recorded.trans split, calm⟩

/-- Without a registry a selection has a fault, and nothing is recorded of it. -/
theorem Selector.missing_registry_unreported :
    let selector : Selector SeededDraws FixedSkins := ⟨none, "root", .ofSeed 1 "horns", ⟨[]⟩, []⟩
    (selector.select ⟨"DE6", "L-1"⟩ none).1 = .error .notLoaded ∧
      (selector.select ⟨"DE6", "L-1"⟩ none).2.journal = [] :=
  ⟨rfl, rfl⟩

end LocoSounds
