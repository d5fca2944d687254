import LocoSounds.Proofs.Evaluation.Walk

/-! What conditions find out about a car, and sources that know one skin of it. -/

namespace LocoSounds

/-- A car that has a skin, or none, has the value of a property but for the case of its letters. -/
def Car.Meets (car : Car) (skin : Option String) : CarProperty → String → Prop
  | .carType, value => lowercase car.carType = lowercase value
  | .skinName, value => skin.map lowercase = some (lowercase value)

section

variable {σ π : Type} [SkinSource π]

namespace SkinSource

/-- The answer of a source to a lookup of a car, after a number of earlier lookups of it. -/
def answer (source : π) (carId : String) : Nat → Option String
  | 0 => (lookup source carId).1
  | earlier + 1 => answer (lookup source carId).2 carId earlier

/-- A source answers every lookup of a car alike, however often the car is looked up. -/
def Answers (source : π) (carId : String) (skin : Option String) : Prop :=
  ∀ earlier, answer source carId earlier = skin

/-- The source once a car was tested for a property. Only its skin has to be looked up. -/
def look (source : π) (car : Car) : CarProperty → π
  | .carType => source
  | .skinName => (lookup source car.carId).2

/-- What a source answers later it answers after a lookup as well. -/
theorem Answers.look {source : π} {car : Car} {skin : Option String}
    (answers : Answers source car.carId skin) (property : CarProperty) :
    Answers (look source car property) car.carId skin := by
  -- Only a test of the skin asks the source, and then every later answer comes one lookup sooner.
  cases property with
  | carType => exact answers
  | skinName => exact fun earlier => answers (earlier + 1)

/-- Every answer to be had after a test is one to be had before it. -/
theorem exists_answer_look (source : π) (car : Car) (property : CarProperty) (earlier : Nat) :
    ∃ before, answer source car.carId before =
      answer (look source car property) car.carId earlier := by
  -- A lookup for the test puts the answers off by one, and a test of the type does not.
  cases property with
  | carType => exact ⟨earlier, rfl⟩
  | skinName => exact ⟨earlier + 1, rfl⟩

/-- Without a source no car has a skin. -/
theorem answers_none (carId : String) : Answers (none : Option π) carId none := by
  -- By induction on the lookups that came before, none of which can bring a source in.
  intro earlier
  induction earlier with
  | zero => rfl
  | succ earlier ih => exact ih

/-- Fixed skins give each car the skin under its id. -/
theorem answers_fixedSkins (source : FixedSkins) (carId : String) :
    Answers source carId (source.skins.lookup carId) := by
  -- By induction on the lookups that came before, none of which changes fixed skins.
  intro earlier
  induction earlier with
  | zero => rfl
  | succ earlier ih => exact ih

/-- Where a source may be absent, one that is there answers as it does. -/
theorem Answers.some {source : π} {carId : String} {skin : Option String}
    (answers : Answers source carId skin) : Answers (some source) carId skin := by
  -- By induction on the lookups that came before, from whatever state the source is in.
  intro earlier
  induction earlier generalizing source with
  | zero => exact answers 0
  | succ earlier ih => exact ih fun before => answers (before + 1)

end SkinSource

namespace Car

/-- At one lookup at least, a source lets a car have the value of a property. -/
def MeetsOnce (car : Car) (source : π) (property : CarProperty) (value : String) : Prop :=
  ∃ earlier, car.Meets (SkinSource.answer source car.carId earlier) property value

/-- At every lookup a source lets a car have the value of a property. -/
def MeetsAlways (car : Car) (source : π) (property : CarProperty) (value : String) : Prop :=
  ∀ earlier, car.Meets (SkinSource.answer source car.carId earlier) property value

variable {car : Car} {source : π} {skin : Option String}

/-- Where a source answers with one skin only, a car meets once what it meets with that skin. -/
theorem meetsOnce_eq (answers : SkinSource.Answers source car.carId skin) :
    car.MeetsOnce source = car.Meets skin := by
  -- All answers are the same one, so some answer and that answer say the same.
  funext property value
  rw [MeetsOnce, exists_congr fun earlier => by rw [answers earlier], exists_const]

/-- Where a source answers with one skin only, a car meets always what it meets with that skin. -/
theorem meetsAlways_eq (answers : SkinSource.Answers source car.carId skin) :
    car.MeetsAlways source = car.Meets skin := by
  -- All answers are the same one, so each answer and that answer say the same.
  funext property value
  rw [MeetsAlways, forall_congr fun earlier => by rw [answers earlier], forall_const]

end Car

/-- A test of a car changes nothing of a run but its source of skins. -/
theorem observe_run (car : Car) (property : CarProperty) (run : Run σ π) :
    (observe car property run).2 =
      { run with skins := SkinSource.look run.skins car property } := by
  -- The type is read off the car and the skin from the source; neither touches the rest of the run.
  cases property <;> rfl

/-- A run finds the value for a property of a car where the car, with the skin looked up, has it. -/
theorem holds_iff {car : Car} {property : CarProperty} {value : String} {run : Run σ π} :
    Holds car property value run ↔
      car.Meets (SkinSource.lookup run.skins car.carId).1 property value := by
  -- The two properties are compared alike, but a skin may be missing where a type may not.
  cases property with
  | carType => simp [Holds, observe, Car.Meets, sameIgnoringCase]
  | skinName =>
    -- A car without a skin has no value at all, not even the empty one.
    simp only [Holds, observe, Car.Meets]
    cases (SkinSource.lookup run.skins car.carId).1 <;> simp [sameIgnoringCase]

/-- A condition that a car meets lets the effect under it go on. -/
theorem Effect.guarded_of_meets {car : Car} {property : CarProperty} {value : String}
    {run : Run σ π} (meets : car.Meets (SkinSource.lookup run.skins car.carId).1 property value)
    (effect : Effect σ π) : Effect.guarded car property value effect run =
      effect { run with skins := SkinSource.look run.skins car property } := by
  -- The test passes, so the effect is done from where the test left the run.
  rw [← observe_run]
  exact if_pos (holds_iff.mpr meets)

/-- A condition that a car does not meet keeps the effect under it from being done. -/
theorem Effect.guarded_of_not_meets {car : Car} {property : CarProperty} {value : String}
    {run : Run σ π} (fails : ¬ car.Meets (SkinSource.lookup run.skins car.carId).1 property value)
    (effect : Effect σ π) : Effect.guarded car property value effect run =
      (none, { run with skins := SkinSource.look run.skins car property }) := by
  -- The test does not pass, so only its lookup is left of it.
  rw [← observe_run]
  exact if_neg (mt holds_iff.mp fails)

end

end LocoSounds
