import LocoSounds.Proofs.Evaluation.Walk
import LocoSounds.Proofs.Library.Loading
import LocoSounds.Selector

/-! Selectors over any number of requests: which registry is active, and what each request gives. -/

namespace LocoSounds

/-- Something that is asked of a selector. A load finds the files as they are at that time. -/
inductive Request where
  | load (tree : FileTree) (path : FilePath) (carTypes : Token)
  | reload (registry : Registry)
  | apply (root : String) (car : Car) (sounds : SoundSet)
  | select (car : Car) (root : Option String)

/-- What is given back for a request. -/
inductive Answer where
  | loaded (result : Except LoadError Registry)
  /-- The registry that was active before the one reloaded. -/
  | replaced (previous : Option Registry)
  | applied (fault : Option EvaluationFault) (sounds : SoundSet)
  | selected (result : Except EvaluationFault SoundSet)

/-- The registry that a request gave to be active. A load that failed gave none. -/
def given? : Request × Answer → Option Registry
  | (.reload registry, _) => some registry
  | (.load .., .loaded (.ok registry)) => some registry
  | _ => none

/-- The last registry that was given, if one was. -/
def lastGiven? (answered : List (Request × Answer)) : Option Registry :=
  (answered.filterMap given?).getLast?

/-- The last registry given is the first one where no later one is. -/
theorem lastGiven?_cons (first : Request × Answer) (rest : List (Request × Answer)) :
    lastGiven? (first :: rest) = (lastGiven? rest).or (given? first) := by
  -- Gathered from all turns, what the first one gave comes in front of what the others did.
  rw [lastGiven?, lastGiven?, List.filterMap_cons]
  cases given? first with
  | none => simp only [Option.or_none]
  | some registry =>
    rw [List.getLast?_cons]
    cases (rest.filterMap given?).getLast? <;> rfl

section

variable {σ π : Type}

/-- The active registry, if there is one, resolves. -/
def Selector.Resolved (selector : Selector σ π) : Prop :=
  ∀ registry, selector.registry = some registry → registry.resolve = .ok ()

/-- A load gives what files and car types alone make of it, and makes active the registry it gives. -/
theorem Selector.load_eq (selector : Selector σ π) (tree : FileTree) (path : FilePath)
    (carTypes : Token) : ∃ events, selector.load tree path carTypes =
      ((Registry.load tree path carTypes).1,
        { selector with
          registry := (Registry.load tree path carTypes).1.toOption.or selector.registry
          journal := selector.journal ++ events }) := by
  -- Whether or not files could be loaded, what was read of them is put into the journal first.
  unfold load
  rcases Registry.load tree path carTypes with ⟨error | registry, events⟩
  · exact ⟨events, rfl⟩
  · exact ⟨events ++ [.activated registry.rules.length registry.sounds.length],
      by simp [reload, Except.toOption]⟩

/-- Evaluation leaves the active registry as it is. -/
theorem Selector.run_registry (selector : Selector σ π) (effect : Registry → Effect σ π)
    (sounds : SoundSet) : (selector.run effect sounds).2.2.registry = selector.registry := by
  -- A run gives back all but draws, skins and journal as it found it.
  unfold run
  cases selector.active <;> rfl

variable [DrawSource σ] [SkinSource π]

/-- A defined root of a registry that resolves fills a sound set. -/
theorem Registry.select_eq_of_defined {registry : Registry} (resolved : registry.resolve = .ok ())
    {root : String} (defined : root ∈ registry.rules.names) (car : Car) (run : Run σ π) :
    ∃ after, registry.select car root run = (none, after) := by
  -- The walk of the root ends without fault, and the selection goes on from its end.
  obtain ⟨_, _, _, _, applied⟩ := exists_walk_of_resolves resolved
    (resolves_ref_iff.mpr defined) car { run with sounds := .empty }
  obtain ⟨_, selected⟩ := registry.select_eq car root run
  rw [selected, applyNamed, applied]
  exact ⟨_, rfl⟩

/-- A root that is not defined is what keeps a sound set from being filled. -/
theorem Registry.select_eq_of_undefined {registry : Registry} {root : String}
    (missing : root ∉ registry.rules.names) (car : Car) (run : Run σ π) :
    ∃ after, registry.select car root run = (some (.noSuchRule root), after) := by
  -- The call of the root fails at once, and the selection passes its fault on.
  obtain ⟨_, selected⟩ := registry.select_eq car root run
  rw [selected, applyNamed_eq_of_undefined missing]
  exact ⟨_, rfl⟩

namespace Selector

/-- What a selector gives back for a request, and the selector afterwards. -/
def answer (selector : Selector σ π) : Request → Answer × Selector σ π
  | .load tree path carTypes =>
    let (result, next) := selector.load tree path carTypes
    (.loaded result, next)
  | .reload registry =>
    let (previous, next) := selector.reload registry
    (.replaced previous, next)
  | .apply root car sounds =>
    let (fault, sounds, next) := selector.apply root car sounds
    (.applied fault sounds, next)
  | .select car root =>
    let (result, next) := selector.select car root
    (.selected result, next)

/-- Some requests with what a selector gives back for each of them, and the selector after the last. -/
def serve (selector : Selector σ π) :
    List Request → List (Request × Answer) × Selector σ π
  | [] => ([], selector)
  | request :: rest =>
    let (answer, next) := selector.answer request
    let (answered, last) := next.serve rest
    ((request, answer) :: answered, last)

/-- A selection gives the sounds of the evaluation or its fault, and what it leaves of the selector. -/
theorem select_eq (selector : Selector σ π) (car : Car) (root : Option String) :
    selector.select car root =
      match selector.run (fun registry => registry.select car (selector.rootOr root)) .empty with
      | (fault, sounds, next) => (fault.elim (.ok sounds) .error, next) := by
  -- Both are the same run of the registry, of which one outcome or the other is told.
  unfold select
  rcases selector.run (fun registry => registry.select car (selector.rootOr root)) .empty
    with ⟨_ | fault, sounds, next⟩ <;> rfl

/-- After a request the registry is active that it gave, or the one before if it gave none. -/
theorem answer_registry (selector : Selector σ π) (request : Request) :
    (selector.answer request).2.registry =
      (given? (request, (selector.answer request).1)).or selector.registry := by
  -- Two of the four kinds of requests may give a registry.
  cases request with
  | load tree path carTypes =>
    obtain ⟨events, loaded⟩ := selector.load_eq tree path carTypes
    simp only [answer, loaded]
    cases (Registry.load tree path carTypes).1 <;> rfl
  | reload registry => rfl
  | apply root car sounds => exact selector.run_registry _ sounds
  | select car root =>
    simp only [answer, select_eq]
    exact selector.run_registry _ .empty

/-- Where a request gives no registry but one that resolves, none becomes active that does not. -/
theorem Resolved.answer {selector : Selector σ π} (resolved : selector.Resolved) {request : Request}
    (valid : ∀ registry, request = .reload registry → registry.resolve = .ok ()) :
    (selector.answer request).2.Resolved := by
  -- The active registry was given by the request or was there before it.
  intro active found
  rw [answer_registry] at found
  rcases Option.or_eq_some_iff.mp found with gave | ⟨_, kept⟩
  · cases request with
    | load tree path carTypes =>
      -- A load gives nothing but what was resolved when it was built.
      obtain ⟨events, loaded⟩ := selector.load_eq tree path carTypes
      simp only [Selector.answer, loaded] at gave
      cases result : (Registry.load tree path carTypes).1 <;> rw [result] at gave <;> cases gave
      exact Registry.resolve_of_load result
    | reload registry =>
      cases gave
      exact valid active rfl
    | apply root car sounds => cases gave
    | select car root => cases gave
  · exact resolved active kept

/-- A run goes on from where the part of it before left the selector. -/
theorem serve_append (selector : Selector σ π) (requests later : List Request) :
    selector.serve (requests ++ later) =
      ((selector.serve requests).1 ++ ((selector.serve requests).2.serve later).1,
        ((selector.serve requests).2.serve later).2) := by
  -- By induction on the earlier requests, from whatever selector they find.
  induction requests generalizing selector with
  | nil => rfl
  | cons request rest ih => simp only [List.cons_append, serve, ih]

/-- After a run the registry given last is active, or the one before the run if none was given. -/
theorem serve_registry (selector : Selector σ π) (requests : List Request) :
    (selector.serve requests).2.registry =
      (lastGiven? (selector.serve requests).1).or selector.registry := by
  -- What the first request leaves active is what the others start from.
  induction requests generalizing selector with
  | nil => rfl
  | cons request rest ih =>
    have first := selector.answer_registry request
    simp only [serve, ih, first, lastGiven?_cons, Option.or_assoc]

/-- A run that is given no registry but ones that resolve leaves none active that does not. -/
theorem Resolved.serve {selector : Selector σ π} (resolved : selector.Resolved)
    {requests : List Request}
    (valid : ∀ registry, .reload registry ∈ requests → registry.resolve = .ok ()) :
    (selector.serve requests).2.Resolved := by
  -- By induction on the requests; each one leaves a selector of that kind for the next.
  induction requests generalizing selector with
  | nil => exact resolved
  | cons request rest ih =>
    have first : (selector.answer request).2.Resolved := by
      refine resolved.answer fun registry same => valid registry ?_
      rw [same]
      exact .head _
    exact ih first fun registry later => valid registry (.tail _ later)

/-- A selection from an active registry that resolves gives sounds where its root is defined, and
names the root as the fault where it is not. -/
theorem select_of_resolved {selector : Selector σ π} {active : Registry}
    (found : selector.registry = some active) (resolved : active.resolve = .ok ()) (car : Car)
    (root : Option String) :
    (selector.rootOr root ∈ active.rules.names →
      ∃ sounds, (selector.select car root).1 = .ok sounds) ∧
    (selector.rootOr root ∉ active.rules.names →
      (selector.select car root).1 = .error (.noSuchRule (selector.rootOr root))) := by
  -- The selector is loaded, so all is settled by its registry.
  have ready : selector.active = .ok active := by rw [Selector.active, found]
  rw [select_eq, run, ready]
  constructor
  · intro defined
    obtain ⟨after, selected⟩ := Registry.select_eq_of_defined resolved defined car
      ⟨selector.draws, selector.skins, .empty, selector.journal⟩
    exact ⟨after.sounds, by simp only [selected]; rfl⟩
  · intro missing
    obtain ⟨after, selected⟩ := Registry.select_eq_of_undefined missing car
      ⟨selector.draws, selector.skins, .empty, selector.journal⟩
    simp only [selected]
    rfl

/--
A selector first builds a registry and then swaps it in, whatever it is asked for and however often.

At each moment of a run the active registry is the one given last by a load that succeeded or by a
reload, or the first one if none was given.
A load gives what files and car types alone make of it, and if it fails nothing but the journal is
changed. A reload gives the registry that was active before it.
What was loaded once stays loaded.
If no registry was given by hand that does not resolve, a selection fails only for a root that the
active registry does not define.
-/
theorem serve_builds_then_swaps (selector : Selector σ π) (requests : List Request) :
    let answered := (selector.serve requests).1
    let now := (selector.serve requests).2
    (∀ next later, (selector.serve (requests ++ next :: later)).1 =
      answered ++ (next, (now.answer next).1) :: ((now.answer next).2.serve later).1) ∧
    now.registry = (lastGiven? answered).or selector.registry ∧
    (∀ tree path carTypes,
      (now.answer (.load tree path carTypes)).1 =
        .loaded (Registry.load tree path carTypes).1 ∧
      ∀ error, (Registry.load tree path carTypes).1 = .error error →
        ∃ events, (now.answer (.load tree path carTypes)).2 =
          { now with journal := now.journal ++ events }) ∧
    (∀ registry, (now.answer (.reload registry)).1 = .replaced now.registry) ∧
    (selector.loaded → now.loaded) ∧
    (selector.Resolved → (∀ registry, .reload registry ∈ requests → registry.resolve = .ok ()) →
      ∀ active, now.registry = some active → ∀ car root,
        (now.rootOr root ∈ active.rules.names →
          ∃ sounds, (now.answer (.select car root)).1 = .selected (.ok sounds)) ∧
        (now.rootOr root ∉ active.rules.names →
          (now.answer (.select car root)).1 =
            .selected (.error (.noSuchRule (now.rootOr root))))) := by
  -- Each statement about the moment is one about the selector that the requests left.
  intro answered now
  refine ⟨fun next later => ?_, selector.serve_registry requests, fun tree path carTypes => ?_,
    fun registry => rfl, fun loaded => ?_, fun resolved valid active found car root => ?_⟩
  · rw [serve_append]
    rfl
  · obtain ⟨events, done⟩ := now.load_eq tree path carTypes
    refine ⟨by simp only [answer, done], fun error failed => ⟨events, ?_⟩⟩
    simp only [answer, done, failed]
    rfl
  · -- A registry is active at the end, either the one given last or the one of the start.
    have active := selector.serve_registry requests
    simp only [Selector.loaded] at loaded ⊢
    rw [active, Option.isSome_or, loaded, Bool.or_true]
  · have ready : active.resolve = .ok () := resolved.serve valid active found
    obtain ⟨selects, fails⟩ := select_of_resolved found ready car root
    refine ⟨fun defined => ?_, fun missing => ?_⟩
    · obtain ⟨sounds, selected⟩ := selects defined
      exact ⟨sounds, by simp only [answer, selected]⟩
    · simp only [answer, fails missing]

end Selector

end

/-- A load of a file that is not there leaves the horns active, whose root selects and whose whistle
does not. -/
theorem Selector.serve_horns_past_failed_load :
    let registry : Registry := ⟨[("root", .ref "horns"), ("horns", .allOf [.sound "horn"])],
      [("horn", ⟨"horn", .hornHit, ["a.ogg"], none, none, none, none, none⟩)],
      Car.defaultTypes.map lowercase⟩
    let selector : Selector SeededDraws FixedSkins := ⟨none, "root", .ofSeed 1 "horns", ⟨[]⟩, []⟩
    let now := (selector.serve [.reload registry, .load .empty ⟨.relative, ["a"]⟩ .null]).2
    now.registry = some registry ∧
      (∃ sounds, (now.answer (.select ⟨"DE6", "L-1"⟩ none)).1 = .selected (.ok sounds)) ∧
      (now.answer (.select ⟨"DE6", "L-1"⟩ (some "whistle"))).1 =
        .selected (.error (.noSuchRule "whistle")) := by
  -- The reload gives the horns, and the load gives nothing, as there is no file.
  intro registry selector now
  have resolves : registry.resolve = .ok () := (Registry.build_eq_ok_iff.mp Registry.build_horns).2.2.2
  obtain ⟨_, last, _, _, _, selects⟩ := selector.serve_builds_then_swaps
    [.reload registry, .load .empty ⟨.relative, ["a"]⟩ .null]
  have active : now.registry = some registry := last
  have fresh : selector.Resolved := fun _ none => by cases none
  have valid : ∀ given, Request.reload given ∈
      [.reload registry, .load .empty ⟨.relative, ["a"]⟩ .null] → given.resolve = .ok () := by
    intro given member
    obtain rfl : given = registry := by simpa using member
    exact resolves
  have chosen := selects fresh valid registry active ⟨"DE6", "L-1"⟩
  exact ⟨active, (chosen none).1 (.head _), (chosen (some "whistle")).2 (by decide)⟩

end LocoSounds
