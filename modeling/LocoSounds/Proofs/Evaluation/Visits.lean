import LocoSounds.Proofs.Evaluation.Walk
import LocoSounds.Proofs.Skin.Replies

/-! Evaluation rule by rule: which rules an evaluation comes to, one after the other, and what it takes
from its source of draws on the way. -/

namespace LocoSounds

/-- A choice between alternatives. -/
def Rule.isChoice : Rule → Bool
  | .oneOf _ => true
  | _ => false

/-- Two runs with the same draws and the same sounds, whose skins are related. -/
structure Run.Alongside {σ π ρ : Type} (worn : π → ρ → Prop) (run : Run σ π) (other : Run σ ρ) :
    Prop where
  draws : run.draws = other.draws
  skins : worn run.skins other.skins
  sounds : run.sounds = other.sounds

section

variable {σ : Type} [DrawSource σ]

/-- What is left of a source after a number of draws. -/
def DrawSource.after (source : σ) : Nat → σ
  | 0 => source
  | n + 1 => after (draw source).2 n

/-- Draws may be taken in two parts. -/
theorem DrawSource.after_add (source : σ) (m n : Nat) :
    after source (m + n) = after (after source m) n := by
  -- By induction on the draws of the first part.
  induction m generalizing source with
  | zero => rw [Nat.zero_add, after]
  | succ m ih =>
    rw [Nat.succ_add]
    exact ih (draw source).2

/-- A draw before some others is one more of them. -/
theorem DrawSource.after_ite (source : σ) (taken : Bool) (n : Nat) :
    after (if taken then (draw source).2 else source) n =
      after source (n + if taken then 1 else 0) := by
  -- A draw is taken or it is not.
  cases taken <;> rfl

variable {π : Type} [SkinSource π]

/-- What coming to a rule does by itself: the fault that ends the evaluation there if one does, the
rules to go on with, and the run by then. -/
def Registry.enter (registry : Registry) (car : Car) :
    Rule → Run σ π → Option EvaluationFault × List Rule × Run σ π
  | .allOf rules, run => (none, rules, run)
  | .oneOf choices, run =>
    -- The number is taken even if no alternative comes of it.
    (none, ((drawnChoice? choices run).map (·.2)).toList, (drawChoice (choices.map (·.1)) run).2)
  | .when property value rule, run =>
    let (found, run) := observe car property run
    (none, if found.any (sameIgnoringCase · value) then [rule] else [], run)
  | .ref name, run =>
    -- A reference leads on to the rule itself, whatever is in progress.
    match registry.rule? name with
    | some rule => (none, [rule], run)
    | none => (some (.noSuchRule name), [], run.record (.ruleUndefined name))
  | .sound name, run =>
    let (fault, run) := Effect.ofSound registry name run
    (fault, [], run)

/-- The rules that an evaluation comes to when it applies some rules one after the other, each rule in
its turn, and what it ends in. -/
inductive Registry.Visits (registry : Registry) (car : Car) : List Rule → Run σ π → List Rule →
    Option EvaluationFault × Run σ π → Prop where
  | done {run : Run σ π} : Visits registry car [] run [] (none, run)
  -- What was still to be done when a fault comes up is never come to.
  | ended {rule : Rule} {pending parts : List Rule} {run after : Run σ π} {fault : EvaluationFault}
      (enters : registry.enter car rule run = (some fault, parts, after)) :
      Visits registry car (rule :: pending) run [rule] (some fault, after)
  | entered {rule : Rule} {pending parts visited : List Rule} {run next : Run σ π}
      {outcome : Option EvaluationFault × Run σ π}
      (enters : registry.enter car rule run = (none, parts, next))
      (rest : Visits registry car (parts ++ pending) next visited outcome) :
      Visits registry car (rule :: pending) run (rule :: visited) outcome

namespace Registry

variable {registry : Registry} {car : Car} {rule : Rule} {pending visited : List Rule}
  {run : Run σ π} {outcome : Option EvaluationFault × Run σ π}

/-- An evaluation comes to rules in one order only, and to one end. -/
theorem Visits.unique {others : List Rule} {other : Option EvaluationFault × Run σ π}
    (visits : registry.Visits car pending run visited outcome)
    (again : registry.Visits car pending run others other) :
    visited = others ∧ outcome = other := by
  -- What coming to a rule does leaves one way to go on.
  induction visits generalizing others other with
  | done =>
    cases again
    exact ⟨rfl, rfl⟩
  | ended enters =>
    cases again with
    | ended same =>
      cases enters.symm.trans same
      exact ⟨rfl, rfl⟩
    | entered same _ => cases enters.symm.trans same
  | entered enters _ ih =>
    cases again with
    | ended same => cases enters.symm.trans same
    | entered same rest =>
      cases enters.symm.trans same
      obtain ⟨rfl, rfl⟩ := ih rest
      exact ⟨rfl, rfl⟩

namespace Visits

/-- A rule that leads to one other rule is followed by that one. -/
theorem through {part : Rule} {next : Run σ π}
    (enters : registry.enter car rule run = (none, [part], next))
    (rest : registry.Visits car (part :: pending) next visited outcome) :
    registry.Visits car (rule :: pending) run (rule :: visited) outcome :=
  .entered enters rest

/-- A rule that leads to no other is followed by what was to be done after it. -/
theorem past {next : Run σ π} (enters : registry.enter car rule run = (none, [], next))
    (rest : registry.Visits car pending next visited outcome) :
    registry.Visits car (rule :: pending) run (rule :: visited) outcome :=
  .entered enters rest

/-- A list of rules is followed by each of them. -/
theorem of_allOf {rules : List Rule}
    (visits : registry.Visits car (.allOf rules :: pending) run visited outcome) :
    ∃ inner, visited = .allOf rules :: inner ∧
      registry.Visits car (rules ++ pending) run inner outcome := by
  -- A list of rules never ends an evaluation, so it was entered, and its rules were put in front.
  cases visits with
  | ended enters => cases enters
  | entered enters rest =>
    cases enters
    exact ⟨_, rfl, rest⟩

end Visits

/-- What follows an outcome: more rules are applied, or nothing is done after a fault. -/
def Follows (registry : Registry) (car : Car) (outcome : Option EvaluationFault × Run σ π)
    (pending later : List Rule) (last : Option EvaluationFault × Run σ π) : Prop :=
  match outcome with
  | (none, next) => registry.Visits car pending next later last
  | (some _, _) => later = [] ∧ last = outcome

/-- A walk through a rule comes to the rule and then to some below it, before what follows its
outcome. -/
theorem Walk.exists_visits {chain : List String} {moments : List (List String)}
    (walk : registry.Walk car chain rule run outcome moments) :
    ∃ below, ∀ pending later last, registry.Follows car outcome pending later last →
      registry.Visits car (rule :: pending) run (rule :: (below ++ later)) last := by
  -- By induction on the walk; each step names the rules that are visited below.
  induction walk with
  | nil => exact ⟨[], fun _ _ _ rest => .past rfl rest⟩
  | @ended _ first _ _ _ _ _ _ ih =>
    obtain ⟨below, visits⟩ := ih
    exact ⟨first :: below, fun _ _ _ rest => .entered rfl (visits _ _ _ rest)⟩
  | @cons _ first others _ _ _ _ _ _ _ first_ih others_ih =>
    obtain ⟨below, visits⟩ := first_ih
    obtain ⟨beyond, visitsOthers⟩ := others_ih
    refine ⟨first :: (below ++ beyond), fun pending later last rest => ?_⟩
    -- The walk comes to what is left of the list as to one more rule, which is none here.
    obtain ⟨inner, same, others⟩ := (visitsOthers _ _ _ rest).of_allOf
    cases same
    have whole := visits _ _ last others
    rw [← List.append_assoc] at whole
    exact .entered rfl whole
  | @chosen _ _ choice _ _ _ drawn _ ih =>
    obtain ⟨below, visits⟩ := ih
    refine ⟨choice.2 :: below, fun _ _ _ rest => .through ?_ (visits _ _ _ rest)⟩
    rw [enter, drawn]
    rfl
  | nothing drawn =>
    refine ⟨[], fun _ _ _ rest => .past ?_ rest⟩
    rw [enter, drawn]
    rfl
  | @holds _ _ _ rule _ _ _ condition _ ih =>
    obtain ⟨below, visits⟩ := ih
    refine ⟨rule :: below, fun _ _ _ rest => .through ?_ (visits _ _ _ rest)⟩
    exact congrArg (fun parts => (none, parts, _)) (if_pos condition)
  | fails condition =>
    refine ⟨[], fun _ _ _ rest => .past ?_ rest⟩
    exact congrArg (fun parts => (none, parts, _)) (if_neg condition)
  | @ref _ _ rule _ _ _ found _ ih =>
    obtain ⟨below, visits⟩ := ih
    refine ⟨rule :: below, fun _ _ _ rest => .through ?_ (visits _ _ _ rest)⟩
    rw [enter, found]
  | undefined missing =>
    refine ⟨[], fun _ later last rest => ?_⟩
    obtain ⟨rfl, rfl⟩ := rest
    exact .ended (by rw [enter, missing])
  | @sound _ name run =>
    refine ⟨[], fun pending later last rest => ?_⟩
    cases sounded : Effect.ofSound registry name run with
    | mk fault next =>
      rw [sounded] at rest
      cases fault with
      | none => exact .past (by rw [enter, sounded]) rest
      | some fault =>
        obtain ⟨rfl, rfl⟩ := rest
        exact .ended (by rw [enter, sounded])

/-- Where no rule comes back to itself, an evaluation comes to some rules before its end. -/
theorem exists_visits_apply (acyclic : registry.rules.Acyclic) (car : Car) (rule : Rule)
    (run : Run σ π) : ∃ visited,
      registry.Visits car [rule] run visited (registry.apply car rule run) := by
  -- The walk that applying the rule makes visits rules, and nothing was pending behind it.
  obtain ⟨moments, walk, _⟩ := exists_walk_apply acyclic car rule run
  obtain ⟨below, visits⟩ := walk.exists_visits
  refine ⟨rule :: (below ++ []), visits [] [] _ ?_⟩
  -- Nothing is to be applied after the rule itself.
  cases registry.apply car rule run with
  | mk fault after =>
    cases fault with
    | none => exact .done
    | some fault => exact ⟨rfl, rfl⟩

omit [DrawSource σ] [SkinSource π] in
/-- A sound takes no draw. -/
theorem draws_ofSound (name : String) (run : Run σ π) :
    (Effect.ofSound registry name run).2.draws = run.draws := by
  -- The sound is put in or missed, and neither touches the draws.
  unfold Effect.ofSound
  cases registry.sound? name <;> rfl

/-- Coming to a choice takes one draw, and coming to any other rule takes none. -/
theorem draws_enter (registry : Registry) (car : Car) (rule : Rule) (run : Run σ π) :
    (registry.enter car rule run).2.2.draws =
      if rule.isChoice then (DrawSource.draw run.draws).2 else run.draws := by
  -- The forms of rules one by one, of which only a choice draws.
  cases rule with
  | allOf rules => rfl
  | oneOf choices => rfl
  | when property value rule => cases property <;> rfl
  | ref name =>
    rw [enter]
    cases registry.rule? name <;> rfl
  | sound name => exact draws_ofSound name run

/-- An evaluation takes one draw for each choice that it comes to. -/
theorem Visits.draws_eq (visits : registry.Visits car pending run visited outcome) :
    outcome.2.draws = DrawSource.after run.draws (visited.countP Rule.isChoice) := by
  -- Each rule takes its own draw, if any, before those of the rules that come after it.
  induction visits with
  | done => rfl
  | @ended rule _ _ run _ _ enters =>
    have taken := draws_enter registry car rule run
    rw [enters] at taken
    rw [List.countP_cons, ← DrawSource.after_ite]
    exact taken
  | @entered rule _ _ _ run _ _ enters _ ih =>
    have taken := draws_enter registry car rule run
    rw [enters] at taken
    rw [List.countP_cons, ← DrawSource.after_ite, ih]
    exact congrArg (DrawSource.after · _) taken

end Registry

variable {ρ : Type} [SkinSource ρ] {worn : π → ρ → Prop} {registry : Registry} {car : Car}
  {run : Run σ π} {other : Run σ ρ}

omit [SkinSource π] [SkinSource ρ] in
/-- Runs alongside draw the same alternative, if one is drawn. -/
theorem Run.Alongside.drawnChoice?_eq (near : run.Alongside worn other)
    (choices : List (Binary64 × Rule)) :
    drawnChoice? choices run = drawnChoice? choices other := by
  -- What is drawn depends on nothing but the source of draws.
  unfold drawnChoice? drawChoice
  rw [near.draws]

/-- Coming to a rule does the same for two runs alongside, and leaves them alongside. -/
theorem Run.Alongside.enter (near : run.Alongside worn other)
    (kept : SkinSource.KeptBy worn car.carId) (registry : Registry) (rule : Rule) :
    ∃ after, registry.enter car rule other =
        ((registry.enter car rule run).1, (registry.enter car rule run).2.1, after) ∧
      (registry.enter car rule run).2.2.Alongside worn after := by
  -- The forms of rules one by one; the draws are equal, and skins are asked by one form only.
  cases rule with
  | allOf rules => exact ⟨other, rfl, near⟩
  | oneOf choices =>
    have next : (drawChoice (choices.map (·.1)) run).2.Alongside worn
        (drawChoice (choices.map (·.1)) other).2 :=
      ⟨congrArg (fun draws => (DrawSource.draw draws).2) near.draws, near.skins, near.sounds⟩
    exact ⟨_, by simp only [Registry.enter, near.drawnChoice?_eq], next⟩
  | when property value rule =>
    cases property with
    | carType => exact ⟨other, rfl, near⟩
    | skinName =>
      -- Only here the sources of skins are asked.
      obtain ⟨same, after⟩ := kept _ _ near.skins
      refine ⟨{ other with skins := (SkinSource.lookup other.skins car.carId).2 }, ?_,
        near.draws, after, near.sounds⟩
      simp only [Registry.enter, observe, same]
      rfl
  | ref name =>
    simp only [Registry.enter]
    cases registry.rule? name <;> exact ⟨_, rfl, near.draws, near.skins, near.sounds⟩
  | sound name =>
    simp only [Registry.enter, Effect.ofSound]
    cases registry.sound? name with
    | none => exact ⟨_, rfl, near.draws, near.skins, near.sounds⟩
    | some sound => exact ⟨_, rfl, near.draws, near.skins, congrArg sound.apply near.sounds⟩

/-- Runs alongside come to the same rules, and end alike and alongside. -/
theorem Registry.Visits.alongside {pending visited : List Rule}
    {outcome : Option EvaluationFault × Run σ π}
    (visits : registry.Visits car pending run visited outcome)
    (kept : SkinSource.KeptBy worn car.carId) (near : run.Alongside worn other) :
    ∃ after, registry.Visits car pending other visited (outcome.1, after) ∧
      outcome.2.Alongside worn after := by
  -- By induction on what is pending, one rule of which is entered in each step.
  induction visits generalizing other with
  | done => exact ⟨other, .done, near⟩
  | @ended rule _ _ _ _ _ enters =>
    obtain ⟨after, same, near⟩ := near.enter kept registry rule
    rw [enters] at same near
    exact ⟨after, .ended same, near⟩
  | @entered rule _ _ _ _ _ _ enters _ ih =>
    obtain ⟨next, same, near⟩ := near.enter kept registry rule
    rw [enters] at same near
    obtain ⟨after, visits, near⟩ := ih near
    exact ⟨after, .entered same visits, near⟩

/-- Where no rule comes back to itself, applying a rule does the same for two runs alongside. -/
theorem Registry.apply_alongside (acyclic : registry.rules.Acyclic) (rule : Rule)
    (kept : SkinSource.KeptBy worn car.carId) (near : run.Alongside worn other) :
    ∃ after, registry.apply car rule other = ((registry.apply car rule run).1, after) ∧
      (registry.apply car rule run).2.Alongside worn after := by
  -- The first run visits some rules, and the second one visits the same.
  obtain ⟨visited, visits⟩ := exists_visits_apply acyclic car rule run
  obtain ⟨after, beside, near⟩ := visits.alongside kept near
  -- There is one end only that the second run can come to.
  obtain ⟨others, again⟩ := exists_visits_apply acyclic car rule other
  exact ⟨after, (again.unique beside).2, near⟩

end

end LocoSounds
