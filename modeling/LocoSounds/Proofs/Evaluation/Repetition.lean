import LocoSounds.Proofs.Evaluation.Simulation
import LocoSounds.Proofs.Rule.Repetition

/-! Evaluation with choices without weights in place of choices by natural weights: the same sounds
are put into slots, and as many numbers are drawn. -/

namespace LocoSounds

/-- The registry with choices without weights in place of those of its rules. -/
def Registry.repeated (registry : Registry) : Registry :=
  { registry with rules := registry.rules.map fun entry => (entry.1, entry.2.repeated) }

/-- Two runs that differ in their journals at most. -/
structure Run.UpToJournal {σ π : Type} (run other : Run σ π) : Prop where
  draws : run.draws = other.draws
  skins : run.skins = other.skins
  sounds : run.sounds = other.sounds

/-- The sounds that something puts into slots from a run on, in turn. -/
abbrev Puts (σ π : Type) := Run σ π → List Sound

section

variable {σ π : Type}

/-- What is put into slots by an effect and then, unless it ended early, by the next one. -/
def Effect.putsThen (effect : Effect σ π) (puts later : Puts σ π) : Puts σ π :=
  fun run =>
    puts run ++ match effect run with
      | (none, next) => later next
      | (some _, _) => []

/-- Sounds account for what an effect does to slots: it puts them in, one after the other. -/
def Effect.Fills (effect : Effect σ π) (puts : Puts σ π) : Prop :=
  ∀ run, (effect run).2.sounds =
    (puts run).foldl (fun set sound => sound.apply set) run.sounds

/-- Two effects do alike but for the journal, and put the same sounds into slots in turn. -/
structure Effect.InStep (effect other : Effect σ π) (puts others : Puts σ π) : Prop where
  alike : Effect.Alike Run.UpToJournal effect other
  puts : ∀ run beside, Run.UpToJournal run beside → puts run = others beside

/-- What an effect and then another one do to slots is accounted for by what both put in. -/
theorem Effect.Fills.andThen {effect next : Effect σ π} {puts later : Puts σ π}
    (fills : effect.Fills puts) (nextFills : next.Fills later) :
    (effect.andThen next).Fills (effect.putsThen puts later) := by
  -- The first effect either ends both or leaves a run for the second, which fills from there.
  intro run
  have first := fills run
  unfold Effect.andThen Effect.putsThen
  generalize effect run = outcome at first ⊢
  obtain ⟨_ | fault, after⟩ := outcome
  · rw [List.foldl_append, ← first]
    exact nextFills after
  · rw [List.append_nil]
    exact first

/-- Effects that are followed by others in step are in step where both are. -/
theorem Effect.InStep.andThen {effect other next after : Effect σ π}
    {puts others later afters : Puts σ π} (first : InStep effect other puts others)
    (second : InStep next after later afters) :
    InStep (effect.andThen next) (other.andThen after) (effect.putsThen puts later)
      (other.putsThen others afters) := by
  -- Both parts are alike, and so are the two in a row; what is left are the sounds they put in.
  refine ⟨first.alike.andThen second.alike, fun run beside near => ?_⟩
  obtain ⟨faults, goes⟩ := first.alike run beside near
  unfold Effect.putsThen
  rw [first.puts run beside near]
  -- Both end with the same fault, or what follows starts from runs alike.
  generalize effect run = outcome, other beside = stopped at faults goes ⊢
  obtain ⟨fault, onward⟩ := outcome
  obtain ⟨problem, along⟩ := stopped
  obtain rfl : fault = problem := faults
  cases fault with
  | none => exact congrArg (others beside ++ ·) (second.puts onward along goes)
  | some fault => rfl

/-- Effects are in step where they are from each pair of runs that are alike. -/
theorem Effect.InStep.of_run {effect other : Effect σ π} {puts others : Puts σ π}
    (each : ∀ run beside, run.UpToJournal beside →
      ((effect run).1 = (other beside).1 ∧ (effect run).2.UpToJournal (other beside).2) ∧
        puts run = others beside) :
    InStep effect other puts others :=
  ⟨fun run beside near => (each run beside near).1, fun run beside near => (each run beside near).2⟩

/-- The same fault ends both sides alike, before anything is put into slots. -/
theorem Effect.inStep_fail (fault : EvaluationFault) (event : Event) :
    InStep (σ := σ) (π := π) (.fail fault event) (.fail fault event) (fun _ => []) fun _ => [] where
  alike _ _ near := ⟨rfl, near.draws, near.skins, near.sounds⟩
  puts _ _ _ := rfl

/-- The sound of a name is put into its slot on both sides where it is the same sound. -/
theorem Effect.inStep_ofSound {registry other : Registry} {name : String}
    (same : registry.sound? name = other.sound? name) :
    InStep (σ := σ) (π := π) (.ofSound registry name) (.ofSound other name)
      (fun _ => (registry.sound? name).toList) fun _ => (other.sound? name).toList := by
  -- Either side has the sound and puts it in, or neither has it and both fail alike.
  unfold Effect.ofSound
  rw [← same]
  cases registry.sound? name with
  | none => exact ⟨(inStep_fail _ _).alike, fun _ _ _ => rfl⟩
  | some sound =>
    exact ⟨fun _ _ near => ⟨rfl, near.draws, near.skins, congrArg sound.apply near.sounds⟩,
      fun _ _ _ => rfl⟩

end

section

variable {σ π : Type} [DrawSource σ] [SkinSource π]

namespace Rule

mutual

/-- The sounds that a rule puts into slots, given what the rules that it refers to do and put. -/
def puts (registry : Registry) (car : Car) (call : String → Effect σ π)
    (calls : String → Puts σ π) : Rule → Puts σ π
  | .allOf rules => putsOfAll registry car call calls rules
  | .oneOf choices => fun run =>
    match drawChoice (choices.map (·.1)) run with
    | (some index, run) => putsOfChoice registry car call calls index choices run
    | (none, _) => []
  | .when property value rule => fun run =>
    let (found, run) := observe car property run
    if found.any (sameIgnoringCase · value) then rule.puts registry car call calls run else []
  | .ref name => calls name
  | .sound name => fun _ => (registry.sound? name).toList

/-- The sounds that some rules put into slots, one after the other. -/
def putsOfAll (registry : Registry) (car : Car) (call : String → Effect σ π)
    (calls : String → Puts σ π) : List Rule → Puts σ π
  | [] => fun _ => []
  | rule :: rest =>
    (rule.effect registry car call).putsThen (rule.puts registry car call calls)
      (putsOfAll registry car call calls rest)

/-- The sounds that the alternative at an index puts into slots. -/
def putsOfChoice (registry : Registry) (car : Car) (call : String → Effect σ π)
    (calls : String → Puts σ π) : Nat → List (Binary64 × Rule) → Puts σ π
  | _, [] => fun _ => []
  | 0, (_, rule) :: _ => rule.puts registry car call calls
  | index + 1, _ :: rest => putsOfChoice registry car call calls index rest

end

end Rule

/-- The sounds that the rule of a name puts into slots, reached from the rules of a chain. -/
def Registry.callPuts (registry : Registry) (car : Car) (chain : List String) (name : String) :
    Puts σ π :=
  match _found : registry.rule? name with
  | none => fun _ => []
  | some rule =>
    if _open : name ∈ chain then fun _ => []
    else rule.puts registry car (registry.call car (name :: chain))
      fun other => registry.callPuts car (name :: chain) other
termination_by (registry.rules.unvisited chain).length
decreasing_by
  exact NamedRules.unvisited_length_lt _ chain name (mem_names_of_rule? _found) _open

/-- The sounds that a rule puts into slots. -/
def Registry.puts (registry : Registry) (car : Car) (rule : Rule) : Puts σ π :=
  rule.puts registry car (registry.call car []) (registry.callPuts car [])

variable {registry other : Registry} {car : Car} {call again : String → Effect σ π}
  {calls others : String → Puts σ π}

/-- The sounds of the alternative at an index are those of the rule there. -/
theorem Rule.putsOfChoice_eq (index : Nat) (choices : List (Binary64 × Rule)) :
    putsOfChoice registry car call calls index choices =
      match choices[index]? with
      | some choice => choice.2.puts registry car call calls
      | none => fun _ => [] := by
  -- By induction on the choices, along the index.
  induction choices generalizing index with
  | nil => cases index <;> rfl
  | cons choice rest ih =>
    cases index with
    | zero => rfl
    | succ index => simp only [putsOfChoice, ih, List.getElem?_cons_succ]

/-- A choice puts in the sounds of the alternative drawn, if one is. -/
theorem Rule.puts_oneOf_eq (choices : List (Binary64 × Rule)) (run : Run σ π) :
    (Rule.oneOf choices).puts registry car call calls run =
      match drawnChoice? choices run with
      | some choice =>
        choice.2.puts registry car call calls (drawChoice (choices.map (·.1)) run).2
      | none => [] := by
  -- A draw chooses an index or nothing, and the sounds are read off at the index.
  rw [puts, drawnChoice?]
  rcases drew : drawChoice (choices.map (·.1)) run with ⟨_ | index, after⟩
  · simp only [drew, Option.bind_none]
  · simp only [drew, putsOfChoice_eq, Option.bind_some]
    cases choices[index]? <;> rfl

/-- A condition that a car meets lets the rule under it put in its sounds. -/
theorem Rule.puts_when_of_meets {property : CarProperty} {value : String} {rule : Rule}
    {run : Run σ π} (meets : car.Meets (SkinSource.lookup run.skins car.carId).1 property value) :
    (Rule.when property value rule).puts registry car call calls run =
      rule.puts registry car call calls
        { run with skins := SkinSource.look run.skins car property } := by
  -- A condition that holds is done with once its skin was looked up.
  rw [← observe_run]
  exact if_pos (holds_iff.mpr meets)

/-- A condition that a car does not meet puts in nothing. -/
theorem Rule.puts_when_of_not_meets {property : CarProperty} {value : String} {rule : Rule}
    {run : Run σ π} (fails : ¬ car.Meets (SkinSource.lookup run.skins car.carId).1 property value) :
    (Rule.when property value rule).puts registry car call calls run = [] :=
  if_neg (mt holds_iff.mp fails)

/-- A rule that is not open yet puts in the sounds of the rule found under its name. -/
theorem Registry.callPuts_eq {chain : List String} {name : String} {rule : Rule}
    (found : registry.rule? name = some rule) (fresh : name ∉ chain) :
    (registry.callPuts car chain name : Puts σ π) =
      rule.puts registry car (registry.call car (name :: chain))
        (registry.callPuts car (name :: chain)) := by
  -- The name is defined and not yet open, so the third way out is taken.
  rw [callPuts]
  split
  · simp_all
  · rename_i other again
    rw [found] at again
    cases again
    rw [dif_neg fresh]

/-- A rule that is not defined puts in nothing. -/
theorem Registry.callPuts_of_undefined {chain : List String} {name : String}
    (missing : registry.rule? name = none) :
    (registry.callPuts car chain name : Puts σ π) = fun _ => [] := by
  -- The name is not defined, so the first way out is taken.
  rw [callPuts]
  split
  · rfl
  · rename_i rule found
    rw [missing] at found
    cases found

/-- A rule that is open already puts in nothing more. -/
theorem Registry.callPuts_of_opened {chain : List String} {name : String}
    (opened : name ∈ chain) : (registry.callPuts car chain name : Puts σ π) = fun _ => [] := by
  -- A rule that is open is left before its sounds are asked for, and an undefined one has none.
  rw [callPuts]
  split
  · rfl
  · rw [dif_pos opened]

/-- A rule puts in its sounds where the rules that it refers to put in theirs. -/
theorem Rule.fills (steps : ∀ name, (call name).Fills (calls name)) (rule : Rule) :
    (rule.effect registry car call).Fills (rule.puts registry car call calls) := by
  -- By induction on the rule, one form after the other, as its effect is made up.
  induction rule with
  | allOf rules ih =>
    rw [effect, puts]
    induction rules with
    | nil => exact fun _ => rfl
    | cons rule rest rest_ih =>
      obtain ⟨first, later⟩ := List.forall_mem_cons.mp ih
      exact first.andThen (rest_ih later)
  | oneOf choices ih =>
    intro run
    rw [effect_oneOf_eq, puts_oneOf_eq]
    cases drawn : drawnChoice? choices run with
    | none => rfl
    | some choice => exact ih choice (mem_of_drawnChoice? drawn) _
  | when property value rule ih =>
    intro run
    by_cases meets : car.Meets (SkinSource.lookup run.skins car.carId).1 property value
    · rw [puts_when_of_meets meets, effect, Effect.guarded_of_meets meets]
      exact ih _
    · rw [puts_when_of_not_meets meets, effect, Effect.guarded_of_not_meets meets]
      rfl
  | ref name => exact steps name
  | sound name =>
    intro run
    rw [effect, puts, Effect.ofSound]
    cases registry.sound? name <;> rfl

/-- The rule of a name puts in its sounds. -/
theorem Registry.call_fills (chain : List String) (name : String) :
    (registry.call car chain name : Effect σ π).Fills (registry.callPuts car chain name) := by
  -- By the recursion of calls: a name is undefined, open already, or opened now.
  induction chain, name using Registry.call.induct registry with
  | case1 chain name missing =>
    rw [call_eq_fail missing, callPuts_of_undefined missing]
    exact fun _ => rfl
  | case2 chain name rule found opened =>
    rw [call_eq_reentered found opened, callPuts_of_opened opened]
    exact fun _ => rfl
  | case3 chain name rule found fresh ih =>
    rw [call_eq found fresh, callPuts_eq found fresh]
    exact Rule.fills ih rule

omit [SkinSource π] in
/-- Runs alike take the same number, whatever it is drawn for. -/
theorem Run.UpToJournal.draw {run beside : Run σ π} (near : run.UpToJournal beside)
    (weights others : List Binary64) :
    (drawChoice weights run).2.UpToJournal (drawChoice others beside).2 where
  draws := congrArg (fun draws => (DrawSource.draw draws).2) near.draws
  skins := near.skins
  sounds := near.sounds

omit [DrawSource σ] in
/-- Runs alike stay so once a car was looked up. -/
theorem Run.UpToJournal.look {run beside : Run σ π} (near : run.UpToJournal beside) (car : Car)
    (property : CarProperty) :
    UpToJournal { run with skins := SkinSource.look run.skins car property }
      { beside with skins := SkinSource.look beside.skins car property } where
  draws := near.draws
  skins := congrArg (SkinSource.look · car property) near.skins
  sounds := near.sounds

omit [SkinSource π] in
/-- A draw falls to a copy of the alternative that it falls to by weight. -/
theorem drawnChoice?_repeated {choices : List (Binary64 × Rule)} (counts : Rule.Counts choices)
    {run beside : Run σ π} (same : run.draws = beside.draws) :
    (drawnChoice? ((Rule.evenWeights (Rule.repeatedInChoices choices).length).zip
        (Rule.repeatedInChoices choices)) beside).map (·.2) =
      (drawnChoice? choices run).map (·.2.repeated) := by
  -- The copies have even weights, and there the draw chooses a copy of what it chose by weight.
  have number := counts.choose?_copies_eq (DrawSource.draw run.draws).1.value
  have weights : ((Rule.evenWeights (Rule.repeatedInChoices choices).length).zip
      (Rule.repeatedInChoices choices)).map (·.1) =
        Rule.evenWeights (Rule.repeatedInChoices choices).length :=
    List.map_fst_zip (by simp [Rule.evenWeights])
  have rules : ((Rule.evenWeights (Rule.repeatedInChoices choices).length).zip
      (Rule.repeatedInChoices choices)).map (·.2) = Rule.repeatedInChoices choices :=
    List.map_snd_zip (by simp [Rule.evenWeights])
  unfold drawnChoice? drawChoice
  rw [weights, ← same]
  simp only [Option.map_bind, Function.comp_def, ← List.getElem?_map, rules]
  exact number

/-- The weights of every choice in a part of a rule count copies where those in the rule do. -/
theorem Rule.Counted.part {part rule : Rule} (counted : rule.Counted) (inside : part.PartOf rule) :
    part.Counted :=
  fun choices inner => counted choices (inner.trans inside)

/-- A rule is in step with the one that has copies in place of weights, where the rules that both
refer to are. -/
theorem Rule.inStep_repeated (sounds : ∀ name, registry.sound? name = other.sound? name)
    {rule : Rule} (counted : rule.Counted)
    (steps : ∀ name, Effect.InStep (call name) (again name) (calls name) (others name)) :
    Effect.InStep (rule.effect registry car call) (rule.repeated.effect other car again)
      (rule.puts registry car call calls) (rule.repeated.puts other car again others) := by
  -- By induction on the rule; only a choice is made anew, and there the draws agree on the copies.
  induction rule with
  | allOf rules ih =>
    rw [repeated, repeatedInAll_eq, effect, effect, puts, puts]
    have parts : ∀ rule ∈ rules, rule.Counted := fun rule member =>
      counted.part (.allOf member .self)
    clear counted
    induction rules with
    | nil => exact ⟨fun _ _ near => ⟨rfl, near⟩, fun _ _ _ => rfl⟩
    | cons rule rest rest_ih =>
      obtain ⟨first, later⟩ := List.forall_mem_cons.mp ih
      obtain ⟨counted, laterCounted⟩ := List.forall_mem_cons.mp parts
      exact (first counted).andThen (rest_ih later laterCounted)
  | oneOf choices ih =>
    rw [repeated]
    refine .of_run fun run beside near => ?_
    have same := drawnChoice?_repeated (counted choices .self) near.draws
    have after := near.draw (choices.map (·.1))
      (((evenWeights (repeatedInChoices choices).length).zip (repeatedInChoices choices)).map (·.1))
    rw [effect_oneOf_eq, effect_oneOf_eq, puts_oneOf_eq, puts_oneOf_eq]
    -- What is drawn on the one side is a copy of what is drawn on the other.
    cases drawn : drawnChoice? choices run with
    | none =>
      rw [drawn, Option.map_none, Option.map_eq_none_iff] at same
      rw [same]
      exact ⟨⟨rfl, after⟩, rfl⟩
    | some choice =>
      rw [drawn, Option.map_some, Option.map_eq_some_iff] at same
      obtain ⟨copy, drew, is⟩ := same
      have member := mem_of_drawnChoice? drawn
      have inside := ih choice member (counted.part (.oneOf member .self))
      simp only [drew, is]
      exact ⟨inside.alike _ _ after, inside.puts _ _ after⟩
  | when property value rule ih =>
    have inside := ih (counted.part (.when .self))
    refine .of_run fun run beside near => ?_
    have after := near.look car property
    rw [repeated, effect, effect]
    by_cases meets : car.Meets (SkinSource.lookup run.skins car.carId).1 property value
    · have alike := near.skins ▸ meets
      rw [Effect.guarded_of_meets meets, Effect.guarded_of_meets alike, puts_when_of_meets meets,
        puts_when_of_meets alike]
      exact ⟨inside.alike _ _ after, inside.puts _ _ after⟩
    · have alike := near.skins ▸ meets
      rw [Effect.guarded_of_not_meets meets, Effect.guarded_of_not_meets alike,
        puts_when_of_not_meets meets, puts_when_of_not_meets alike]
      exact ⟨⟨rfl, after⟩, rfl⟩
  | ref name => exact steps name
  | sound name => exact Effect.inStep_ofSound (sounds name)

namespace Registry

omit [DrawSource σ] [SkinSource π] in
/-- Under a name stands the rule of that name with copies in place of weights. -/
theorem rule?_repeated (registry : Registry) (name : String) :
    registry.repeated.rule? name = (registry.rule? name).map Rule.repeated :=
  lookup_map_entries (fun _ => Rule.repeated) registry.rules name

omit [DrawSource σ] [SkinSource π] in
/-- Copies in place of weights leave the sounds of a registry as they are. -/
theorem sound?_repeated (registry : Registry) (name : String) :
    registry.sound? name = registry.repeated.sound? name := rfl

/-- The rule of a name is in step with the one that has copies in place of weights. -/
theorem call_inStep_repeated (entries : ∀ entry ∈ registry.rules, entry.2.Counted)
    (chain : List String) (name : String) :
    Effect.InStep (σ := σ) (π := π) (registry.call car chain name)
      (registry.repeated.call car chain name) (registry.callPuts car chain name)
      (registry.repeated.callPuts car chain name) := by
  -- The chain is the same on both sides, so a rule is entered on both or on neither.
  induction chain, name using Registry.call.induct registry with
  | case1 chain name missing =>
    have absent : registry.repeated.rule? name = none := by
      rw [rule?_repeated, missing, Option.map_none]
    rw [call_eq_fail missing, call_eq_fail absent, callPuts_of_undefined missing,
      callPuts_of_undefined absent]
    exact Effect.inStep_fail _ _
  | case2 chain name rule found opened =>
    have again : registry.repeated.rule? name = some rule.repeated := by
      rw [rule?_repeated, found, Option.map_some]
    rw [call_eq_reentered found opened, call_eq_reentered again opened,
      callPuts_of_opened opened, callPuts_of_opened opened]
    exact Effect.inStep_fail _ _
  | case3 chain name rule found fresh ih =>
    have again : registry.repeated.rule? name = some rule.repeated := by
      rw [rule?_repeated, found, Option.map_some]
    rw [call_eq found fresh, call_eq again fresh, callPuts_eq found fresh,
      callPuts_eq again fresh]
    exact Rule.inStep_repeated registry.sound?_repeated (entries _ (mem_rules_of_rule? found)) ih

/--
Natural weights mean how often an alternative is repeated.

Let all weights of a rule and of the named rules be natural numbers above zero, with totals of up to
53 binary digits, and let each choice be replaced by the one made without weights from as many
copies of each alternative as its weight says.
Then, whatever car, draws, skins and sounds, the rule ends alike, has drawn the same numbers, has
looked up the same skins, and has put the same sounds into slots in the same order, so that the same
sounds are there.
-/
theorem apply_repeated {rule : Rule} (counted : rule.Counted)
    (entries : ∀ entry ∈ registry.rules, entry.2.Counted) (car : Car) (run : Run σ π) :
    let before := registry.apply car rule run
    let after := registry.repeated.apply car rule.repeated run
    (∀ choices, Rule.Counts choices → Rule.choiceOfFields
      (copies (choices.map fun choice => (choice.1.count, choice.2.repeated))) true .null =
        .ok (Rule.oneOf choices).repeated) ∧
    before.1 = after.1 ∧ before.2.draws = after.2.draws ∧ before.2.skins = after.2.skins ∧
    registry.puts car rule run = registry.repeated.puts car rule.repeated run ∧
    before.2.sounds =
      (registry.puts car rule run).foldl (fun set sound => sound.apply set) run.sounds ∧
    before.2.sounds = after.2.sounds := by
  -- Rule and copy are in step from runs that are the same, and being in step gives all the rest.
  intro before after
  have steps : Effect.InStep (σ := σ) (π := π) (registry.apply car rule)
      (registry.repeated.apply car rule.repeated) (registry.puts car rule)
      (registry.repeated.puts car rule.repeated) :=
    Rule.inStep_repeated registry.sound?_repeated counted (call_inStep_repeated entries [])
  have same : run.UpToJournal run := ⟨rfl, rfl, rfl⟩
  obtain ⟨ends, alike⟩ := steps.alike run run same
  refine ⟨fun choices counts => ?_, ends, alike.draws, alike.skins, steps.puts run run same,
    Rule.fills (registry.call_fills []) rule run, alike.sounds⟩
  rw [← Rule.repeatedInChoices_eq]
  exact counts.choiceOfFields_copies

end Registry

end

/-- Horns once and bells three times stand in place of a choice between them, one to three. -/
theorem Registry.apply_horns_and_bells_repeated :
    let choices : List (Binary64 × Rule) := [(.ofInt 1, .ref "horns"), (.ofInt 3, .ref "bells")]
    let registry : Registry :=
      ⟨[("root", .oneOf choices), ("horns", .sound "horn"), ("bells", .sound "bell")],
        [("horn", ⟨"horn", .hornHit, ["a.ogg"], none, none, none, none, none⟩),
          ("bell", ⟨"bell", .bell, ["b.ogg"], none, none, none, none, none⟩)], []⟩
    let car : Car := ⟨"DE6", "L-1"⟩
    let run : Run SeededDraws FixedSkins := ⟨.ofSeed 1 "horns", ⟨[]⟩, .empty, []⟩
    Rule.Counts choices ∧ (∀ entry ∈ registry.rules, entry.2.Counted) ∧
      (Rule.oneOf choices).repeated = .oneOf [(.one, .ref "horns"), (.one, .ref "bells"),
        (.one, .ref "bells"), (.one, .ref "bells")] ∧
      (registry.applyNamed car "root" run).2.sounds =
        (registry.repeated.applyNamed car "root" run).2.sounds := by
  -- The weights one and three are natural, and nothing else in the registry is weighted.
  intro choices registry car run
  have one : (Binary64.ofInt 1).integer? = some 1 := by decide +kernel
  have three : (Binary64.ofInt 3).integer? = some 3 := by decide +kernel
  have counts : Rule.Counts choices := by
    refine ⟨List.cons_ne_nil _ _, ?_, ?_⟩
    · simp only [choices, List.forall_mem_cons]
      exact ⟨⟨1, by decide, one⟩, ⟨3, by decide, three⟩, List.forall_mem_nil _⟩
    · simp [choices, Binary64.count, one, three]
  have root : (Rule.oneOf choices).Counted := by
    intro others inside
    rw [Rule.eq_of_partOf_oneOf_refs (by simp [choices]) inside]
    exact counts
  have leaf : ∀ name, (Rule.sound name).Counted := by
    intro name others inside
    cases inside
  have entries : ∀ entry ∈ registry.rules, entry.2.Counted := by
    simp only [registry, List.forall_mem_cons]
    exact ⟨root, leaf "horn", leaf "bell", List.forall_mem_nil _⟩
  have named : (Rule.ref "root").Counted := by
    intro others inside
    cases inside
  obtain ⟨_, _, _, _, _, _, sounds⟩ := apply_repeated named entries car run
  refine ⟨counts, entries, ?_, sounds⟩
  simp [choices, Rule.repeated, Rule.repeatedInChoices, Rule.evenWeights, Binary64.count, one,
    three, List.replicate]

end LocoSounds
