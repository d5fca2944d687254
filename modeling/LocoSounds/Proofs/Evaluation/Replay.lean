import LocoSounds.Proofs.Draw.Seeded
import LocoSounds.Proofs.Evaluation.Visits

/-! Evaluations in a row by one engine: how many numbers they draw, and that they come to the same when
they are run again from the start of the stream. -/

namespace LocoSounds

/-- What evaluations draw from and look skins up in, one after the other, with the journal of all. -/
structure Engine (σ π : Type) where
  draws : σ
  skins : π
  journal : List Event

/-- Something that an engine evaluates for a car by a registry. -/
inductive Evaluation where
  /-- A rule is applied to a sound set. -/
  | apply (registry : Registry) (car : Car) (rule : Rule) (sounds : SoundSet)
  /-- A fresh sound set is filled by the rule of a name. -/
  | select (registry : Registry) (car : Car) (root : String)

namespace Evaluation

/-- The registry that names are looked up in. -/
def registry : Evaluation → Registry
  | .apply registry .. => registry
  | .select registry .. => registry

/-- The car that is evaluated for. -/
def car : Evaluation → Car
  | .apply _ car .. => car
  | .select _ car _ => car

/-- The rule that is applied. -/
def rule : Evaluation → Rule
  | .apply _ _ rule _ => rule
  | .select _ _ root => .ref root

/-- The sounds that are there before. -/
def sounds : Evaluation → SoundSet
  | .apply _ _ _ sounds => sounds
  | .select .. => .empty

/-- What the evaluation does. -/
def effect {σ π : Type} [DrawSource σ] [SkinSource π] : Evaluation → Effect σ π
  | .apply registry car rule _ => registry.apply car rule
  | .select registry car root => registry.select car root

end Evaluation

/-- A stream that is new, or that was just reset. -/
def SeededDraws.Fresh (draws : SeededDraws) : Prop :=
  (∃ seed name, draws = .ofSeed seed name) ∨ ∃ before seed, draws = reset before seed

/-- Two engines that draw the same numbers, whose skins are related. -/
structure Engine.Alongside {σ π ρ : Type} (worn : π → ρ → Prop) (engine : Engine σ π)
    (other : Engine σ ρ) : Prop where
  draws : engine.draws = other.draws
  skins : worn engine.skins other.skins

section

variable {σ π ρ : Type} [DrawSource σ] [SkinSource π] [SkinSource ρ]

namespace Engine

/-- The run in which an engine fills a sound set. -/
def start (engine : Engine σ π) (sounds : SoundSet) : Run σ π :=
  ⟨engine.draws, engine.skins, sounds, engine.journal⟩

/-- The sounds that an evaluation leaves, with the fault that ended it if one did, and the engine after
it. -/
def evaluate (engine : Engine σ π) (evaluation : Evaluation) :
    (Option EvaluationFault × SoundSet) × Engine σ π :=
  let (fault, after) := evaluation.effect (engine.start evaluation.sounds)
  ((fault, after.sounds), ⟨after.draws, after.skins, after.journal⟩)

/-- What each of some evaluations leaves, and the engine after the last. -/
def serve (engine : Engine σ π) :
    List Evaluation → List (Option EvaluationFault × SoundSet) × Engine σ π
  | [] => ([], engine)
  | evaluation :: rest =>
    let (result, next) := engine.evaluate evaluation
    let (results, last) := next.serve rest
    (result :: results, last)

/-- The rules that an engine comes to in some evaluations, one after the other. -/
def Visits (engine : Engine σ π) : List Evaluation → List Rule → Prop
  | [], visited => visited = []
  -- Each evaluation starts with its own sounds, and with what the ones before left to draw from.
  | evaluation :: rest, visited => ∃ first later, visited = first ++ later ∧
      evaluation.registry.Visits evaluation.car [evaluation.rule] (engine.start evaluation.sounds) first
        (evaluation.registry.apply evaluation.car evaluation.rule (engine.start evaluation.sounds)) ∧
      (engine.evaluate evaluation).2.Visits rest later

/-- The same comes of an evaluation as of its rule, applied to its sounds. -/
theorem evaluate_eq (engine : Engine σ π) (evaluation : Evaluation) :
    let ended := evaluation.registry.apply evaluation.car evaluation.rule
      (engine.start evaluation.sounds)
    ∃ journal, engine.evaluate evaluation =
      ((ended.1, ended.2.sounds), ⟨ended.2.draws, ended.2.skins, journal⟩) := by
  -- To select is to apply a reference to the root, but for an event of its own if that fails.
  cases evaluation with
  | apply registry car rule sounds => exact ⟨_, rfl⟩
  | select registry car root =>
    obtain ⟨journal, selected⟩ := registry.select_eq car root (engine.start .empty)
    refine ⟨journal, ?_⟩
    show (let (fault, after) := registry.select car root (engine.start .empty)
      ((fault, after.sounds), (⟨after.draws, after.skins, after.journal⟩ : Engine σ π))) = _
    rw [selected]
    rfl

variable {worn : π → ρ → Prop} {engine : Engine σ π} {other : Engine σ ρ}

/-- An evaluation leaves the same with engines alongside, and leaves them alongside. -/
theorem Alongside.evaluate (near : engine.Alongside worn other) {evaluation : Evaluation}
    (acyclic : evaluation.registry.rules.Acyclic)
    (kept : SkinSource.KeptBy worn evaluation.car.carId) :
    (engine.evaluate evaluation).1 = (other.evaluate evaluation).1 ∧
      (engine.evaluate evaluation).2.Alongside worn (other.evaluate evaluation).2 := by
  -- An evaluation does what its rule does, and to rules the engines are alongside runs.
  have start : (engine.start evaluation.sounds).Alongside worn (other.start evaluation.sounds) :=
    ⟨near.draws, near.skins, rfl⟩
  obtain ⟨after, same, next⟩ := Registry.apply_alongside acyclic evaluation.rule kept start
  -- The journals, which may differ, are nothing that engines alongside have in common.
  obtain ⟨_, left⟩ := engine.evaluate_eq evaluation
  obtain ⟨_, right⟩ := other.evaluate_eq evaluation
  rw [left, right, same]
  exact ⟨congrArg (_, ·) next.sounds, next.draws, next.skins⟩

/-- Evaluations in a row leave the same with engines alongside, and leave them alongside. -/
theorem Alongside.serve (near : engine.Alongside worn other) {evaluations : List Evaluation}
    (acyclic : ∀ evaluation ∈ evaluations, evaluation.registry.rules.Acyclic)
    (kept : ∀ evaluation ∈ evaluations, SkinSource.KeptBy worn evaluation.car.carId) :
    (engine.serve evaluations).1 = (other.serve evaluations).1 ∧
      (engine.serve evaluations).2.Alongside worn (other.serve evaluations).2 := by
  -- By induction on the evaluations, each of which leaves the engines alongside for the next.
  induction evaluations generalizing engine other with
  | nil => exact ⟨rfl, near⟩
  | cons evaluation rest ih =>
    obtain ⟨first, others⟩ := List.forall_mem_cons.mp acyclic
    obtain ⟨keeps, later⟩ := List.forall_mem_cons.mp kept
    obtain ⟨same, next⟩ := near.evaluate first keeps
    obtain ⟨results, ends⟩ := ih next others later
    exact ⟨congrArg₂ List.cons same results, ends⟩

/-- There is one order in which an engine comes to rules, and it takes a draw for each choice. -/
theorem exists_visits {evaluations : List Evaluation}
    (acyclic : ∀ evaluation ∈ evaluations, evaluation.registry.rules.Acyclic)
    (engine : Engine σ π) :
    ∃ visited, (∀ others, engine.Visits evaluations others ↔ others = visited) ∧
      (engine.serve evaluations).2.draws =
        DrawSource.after engine.draws (visited.countP Rule.isChoice) := by
  -- By induction on the evaluations; each visits its rules, and then the rest visit theirs.
  induction evaluations generalizing engine with
  | nil => exact ⟨[], fun _ => Iff.rfl, rfl⟩
  | cons evaluation rest ih =>
    obtain ⟨first, others⟩ := List.forall_mem_cons.mp acyclic
    obtain ⟨visited, visits⟩ := Registry.exists_visits_apply first evaluation.car evaluation.rule
      (engine.start evaluation.sounds)
    obtain ⟨later, only, taken⟩ := ih others (engine.evaluate evaluation).2
    refine ⟨visited ++ later, fun both => ⟨?_, ?_⟩, ?_⟩
    · rintro ⟨again, more, rfl, visitsAgain, rest⟩
      rw [(visitsAgain.unique visits).1, (only more).mp rest]
    · rintro rfl
      exact ⟨visited, later, rfl, visits, (only later).mpr rfl⟩
    · -- The draws of the first evaluation come before those of the rest.
      obtain ⟨_, left⟩ := engine.evaluate_eq evaluation
      rw [List.countP_append, DrawSource.after_add]
      have drawn : (engine.evaluate evaluation).2.draws =
          DrawSource.after engine.draws (visited.countP Rule.isChoice) := by
        rw [left]
        exact visits.draws_eq
      rw [← drawn]
      exact taken

end Engine

end

namespace SeededDraws

/-- What is left after a number of draws is what is left when they are taken. -/
theorem after_eq (draws : SeededDraws) (n : Nat) : DrawSource.after draws n = (draws.take n).2 := by
  -- By induction on the draws that are taken, the first of them first.
  induction n generalizing draws with
  | zero => rfl
  | succ n ih => exact ih draws.draw.2

/-- A fresh stream is where a reset without a seed leads to from each of its draws. -/
theorem Fresh.reset_take {draws : SeededDraws} (fresh : draws.Fresh) (n : Nat) :
    reset (draws.take n).2 none = draws := by
  -- Draws change neither seed nor name, which are all that a reset keeps.
  show ofSeed (draws.take n).2.seed (draws.take n).2.name = draws
  rw [seed_take, name_take]
  -- A stream that was just reset is a new one.
  rcases fresh with ⟨seed, name, rfl⟩ | ⟨before, seed, rfl⟩ <;> rfl

end SeededDraws

/-- Evaluations that are run again from the start of a stream leave what they did, where skins are looked
up in a source that answers as the first one did. -/
theorem Engine.serve_again {π : Type} [SkinSource π] {engine : Engine SeededDraws π}
    {evaluations : List Evaluation}
    (acyclic : ∀ evaluation ∈ evaluations, evaluation.registry.rules.Acyclic)
    (fresh : engine.draws.Fresh) {skins : π}
    (alike : SkinSource.AlikeFor (evaluations.map (·.car.carId)) engine.skins skins)
    (journal : List Event) :
    ((Engine.mk ((engine.serve evaluations).2.draws.reset none) skins journal).serve
      evaluations).1 = (engine.serve evaluations).1 := by
  -- The stream is where it was at first, so the engines are alongside and leave the same.
  obtain ⟨visited, _, taken⟩ := engine.exists_visits acyclic
  -- All that the evaluations did to the stream was to draw from it.
  have again : (engine.serve evaluations).2.draws.reset none = engine.draws := by
    rw [taken, SeededDraws.after_eq]
    exact fresh.reset_take _
  have near : engine.Alongside (SkinSource.AlikeFor (evaluations.map (·.car.carId)))
      ⟨(engine.serve evaluations).2.draws.reset none, skins, journal⟩ := ⟨again.symm, alike⟩
  exact (near.serve acyclic fun _ member =>
    SkinSource.AlikeFor.keptBy (List.mem_map_of_mem member)).1.symm

/-- A source that is steady answers after some evaluations as it did before them. -/
theorem Engine.alikeFor_serve {σ π : Type} [DrawSource σ] [SkinSource π] {engine : Engine σ π}
    {evaluations : List Evaluation}
    (acyclic : ∀ evaluation ∈ evaluations, evaluation.registry.rules.Acyclic)
    (steady : SkinSource.Steady (evaluations.map (·.car.carId)) engine.skins) :
    SkinSource.AlikeFor (evaluations.map (·.car.carId)) engine.skins
      (engine.serve evaluations).2.skins := by
  -- A steady source answers like fixed skins, and it goes on to do so next to them.
  obtain ⟨fixed, alike⟩ := steady
  -- Beside it goes an engine with fixed skins, which no lookup changes.
  let beside : Engine σ FixedSkins := ⟨engine.draws, fixed, []⟩
  have near : engine.Alongside (fun source other =>
      SkinSource.AlikeFor (evaluations.map (·.car.carId)) source other ∧ other = fixed) beside :=
    ⟨rfl, alike, rfl⟩
  obtain ⟨_, ends⟩ := near.serve acyclic fun _ member =>
    SkinSource.AlikeFor.keptBy_fixed fixed (List.mem_map_of_mem member)
  obtain ⟨after, same⟩ := ends.skins
  rw [same] at after
  exact alike.of_common after

/--
The draws of a seed are at each moment those of a new stream, gone on by as many as were counted.

Whatever was asked of a stream, it is where a new one is that starts from the seed given last, zero
included, and from which as many numbers were drawn as since the last start.
That many are counted, and the next draw gives the number that comes after them there.
In evaluations by one engine, of registries that resolve, one number is drawn for each choice that
they come to, and no other.
From a stream that is new or was just reset they leave the same sounds and faults, each of them, when
they are run again after a reset without a seed, as long as the skins of their cars are the same: in
a source that answers like the first one did, or in the same source if that is steady.
-/
theorem Engine.draws_replayed {π : Type} [SkinSource π] :
    (∀ seed name requests,
      let served := (SeededDraws.ofSeed seed name).serve requests
      let now := served.2
      let stream := SeededDraws.ofSeed (DrawRequest.lastSeed seed requests) name
      now = (stream.take now.count).2 ∧
      now.seed = DrawRequest.lastSeed seed requests ∧
      now.count = DrawRequest.drawsSince requests ∧
      ∀ later, ((SeededDraws.ofSeed seed name).serve (requests ++ .draw :: later)).1 =
        served.1 ++ (stream.take (now.count + 1)).1[now.count]? :: (now.draw.2.serve later).1) ∧
    ∀ (engine : Engine SeededDraws π) (evaluations : List Evaluation),
      (∀ evaluation ∈ evaluations, evaluation.registry.resolve = .ok ()) →
      let ended := (engine.serve evaluations).2
      let carIds := evaluations.map (·.car.carId)
      (∃ visited, (∀ others, engine.Visits evaluations others ↔ others = visited) ∧
        ended.draws = (engine.draws.take (visited.countP Rule.isChoice)).2 ∧
        ended.draws.count = engine.draws.count + visited.countP Rule.isChoice) ∧
      (engine.draws.Fresh →
        (∀ skins : π, SkinSource.AlikeFor carIds engine.skins skins →
          ((Engine.mk (ended.draws.reset none) skins ended.journal).serve evaluations).1 =
            (engine.serve evaluations).1) ∧
        (SkinSource.Steady carIds engine.skins →
          ((Engine.mk (ended.draws.reset none) ended.skins ended.journal).serve evaluations).1 =
            (engine.serve evaluations).1)) := by
  -- What is asked of a stream alone comes first, and then what evaluations draw from it.
  refine ⟨fun seed name requests => ?_, fun engine evaluations resolved => ?_⟩
  · intro served now stream
    have reached : now = (stream.take (DrawRequest.drawsSince requests)).2 :=
      SeededDraws.serve_eq_take seed name requests
    -- A new stream has counted nothing yet.
    have count : now.count = DrawRequest.drawsSince requests := by
      rw [reached, SeededDraws.count_take]
      exact Nat.zero_add _
    have current : now.seed = DrawRequest.lastSeed seed requests := by
      rw [reached, SeededDraws.seed_take]
      rfl
    rw [← count] at reached
    refine ⟨reached, current, count, fun later => ?_⟩
    rw [SeededDraws.serve_append, SeededDraws.getElem?_take_succ, ← reached]
    rfl
  · intro ended carIds
    have acyclic : ∀ evaluation ∈ evaluations, evaluation.registry.rules.Acyclic :=
      fun evaluation member => (Registry.resolve_eq_ok_iff.mp (resolved evaluation member)).2
    obtain ⟨visited, only, taken⟩ := engine.exists_visits acyclic
    rw [SeededDraws.after_eq] at taken
    refine ⟨⟨visited, only, taken, ?_⟩, fun fresh => ⟨fun skins alike => ?_, fun steady => ?_⟩⟩
    · show (engine.serve evaluations).2.draws.count = _
      rw [taken, SeededDraws.count_take]
    · exact Engine.serve_again acyclic fresh alike ended.journal
    · exact Engine.serve_again acyclic fresh (Engine.alikeFor_serve acyclic steady) ended.journal

/-- A stream of seed three that starts over from zero goes on like a new one of zero. Horns are selected
again as they were, with the cache of skins as it was before and with the one that has fetched the skins
of the cars meanwhile. -/
theorem Engine.horns_replayed :
    let registry : Registry := ⟨
      [("root", .oneOf [(.one, .ref "rusty"), (.one, .sound "horn")]),
        ("rusty", .when .skinName "Rusty" (.oneOf [(.one, .sound "horn")]))],
      [("horn", ⟨"horn", .hornHit, ["a.ogg"], none, none, none, none, none⟩)], ["de6"]⟩
    let engine : Engine SeededDraws ReliableCache :=
      ⟨.ofSeed 0 "one_of", ⟨.start (.skins [("L-1", "Rusty")]), nofun⟩, []⟩
    let evaluations : List Evaluation := [.select registry ⟨"DE6", "L-1"⟩ "root",
      .apply registry ⟨"DE6", "L-2"⟩ (.allOf [.ref "rusty", .ref "root"]) .empty]
    let requests : List DrawRequest := [.draw, .reset (some 0), .draw]
    ((SeededDraws.ofSeed 3 "one_of").serve requests).2 =
      ((SeededDraws.ofSeed 0 "one_of").take 1).2 ∧
    registry.resolve = .ok () ∧ engine.draws.Fresh ∧
    SkinSource.Steady ["L-1", "L-2"] engine.skins ∧
    (∃ visited, engine.Visits evaluations visited ∧
      (engine.serve evaluations).2.draws.count = visited.countP Rule.isChoice) ∧
    ((Engine.mk ((engine.serve evaluations).2.draws.reset none) engine.skins
      (engine.serve evaluations).2.journal).serve evaluations).1 = (engine.serve evaluations).1 ∧
    ((Engine.mk ((engine.serve evaluations).2.draws.reset none) (engine.serve evaluations).2.skins
      (engine.serve evaluations).2.journal).serve evaluations).1 = (engine.serve evaluations).1 := by
  -- The registry resolves, the stream is new, and a cache that never fails is steady.
  intro registry engine evaluations requests
  obtain ⟨streams, evaluated⟩ := @Engine.draws_replayed ReliableCache _
  have acyclic : registry.rules.Acyclic := by
    rw [← NamedRules.findCycle?_eq_none_iff]
    simp [registry, NamedRules.findCycle?, NamedRules.searchFrom, NamedRules.search,
      NamedRules.refsOf, NamedRules.names, List.lookup_cons, Rule.refs, Rule.refsOfChoices]
  have resolved : registry.resolve = .ok () := by
    rw [Registry.resolve_eq_ok_iff]
    refine ⟨?_, acyclic⟩
    simp [registry, Registry.resolves_oneOf_iff, Registry.resolves_when_iff,
      Registry.resolves_ref_iff, Registry.resolves_sound_iff, NamedRules.names]
  have each : ∀ evaluation ∈ evaluations, evaluation.registry.resolve = .ok () := by
    simp [evaluations, Evaluation.registry, resolved]
  have fresh : engine.draws.Fresh := .inl ⟨0, "one_of", rfl⟩
  have steady : SkinSource.Steady ["L-1", "L-2"] engine.skins :=
    SkinSource.steady_cache _ engine.skins
  have new : engine.draws.count = 0 := rfl
  obtain ⟨⟨visited, only, _, count⟩, again⟩ := evaluated engine evaluations each
  have taken : (engine.serve evaluations).2.draws.count = visited.countP Rule.isChoice := by
    rw [count, new, Nat.zero_add]
  -- The seed given last is zero, and one number was drawn since.
  have zero : DrawRequest.lastSeed 3 requests = 0 := by decide
  have once : DrawRequest.drawsSince requests = 1 := by decide
  obtain ⟨state, _, drawn, _⟩ := streams 3 "one_of" requests
  rw [drawn, zero, once] at state
  exact ⟨state, resolved, fresh, steady, ⟨visited, (only visited).mpr rfl, taken⟩,
    (again fresh).1 engine.skins (.refl _ engine.skins), (again fresh).2 steady⟩

end LocoSounds
