import Mathlib.Data.List.Forall2

/-! When steps that can fail succeed, lists related item by item, and lookups in lists. -/

namespace LocoSounds

variable {ε α β : Type}

/-- After a step that succeeds the next one goes on with what it gave. -/
theorem ok_bind (given : α) (next : α → Except ε β) : Except.ok given >>= next = next given := rfl

/-- Two steps succeed where the first does and the second does with what the first gave. -/
theorem bind_eq_ok_iff {first : Except ε α} {next : α → Except ε β} {value : β} :
    first >>= next = .ok value ↔ ∃ given, first = .ok given ∧ next given = .ok value := by
  -- The first step succeeds or it does not.
  cases first <;> simp [Bind.bind, Except.bind]

/-- A check lets the next step go on where it succeeds. -/
theorem check_bind_eq_ok_iff {check : Except ε Unit} {next : Unit → Except ε β} {value : β} :
    check >>= next = .ok value ↔ check = .ok () ∧ next () = .ok value := by
  -- The check succeeds or it does not, and there is one value that it can give.
  cases check <;> simp [Bind.bind, Except.bind]

/-- Two steps fail where the first does, or the second does with what the first gave. -/
theorem bind_eq_error_iff {first : Except ε α} {next : α → Except ε β} {error : ε} :
    first >>= next = .error error ↔
      first = .error error ∨ ∃ given, first = .ok given ∧ next given = .error error := by
  -- The first step succeeds or it does not.
  cases first <;> simp [Bind.bind, Except.bind]

/-- Wording an error differently leaves success as it is. -/
@[simp] theorem mapError_eq_ok_iff {δ : Type} {wording : ε → δ} {step : Except ε α} {value : α} :
    step.mapError wording = .ok value ↔ step = .ok value := by
  -- The step succeeds or it does not.
  cases step <;> simp [Except.mapError]

/-- Steps whose errors are worded differently fail where the step itself does. -/
theorem mapError_eq_error_iff {δ : Type} {wording : ε → δ} {step : Except ε α} {error : δ} :
    step.mapError wording = .error error ↔ ∃ fault, step = .error fault ∧ wording fault = error := by
  -- The step succeeds or it does not.
  cases step <;> simp [Except.mapError]

/-- Every item of a list is read in turn where each of them can be read. -/
theorem mapM_eq_ok_iff {read : α → Except ε β} {items : List α} {values : List β} :
    items.mapM read = .ok values ↔
      List.Forall₂ (fun item value => read item = .ok value) items values := by
  -- The first item is read, then the others, and the values are put together.
  induction items generalizing values with
  | nil => simp [Pure.pure, Except.pure, eq_comm]
  | cons item rest ih =>
    simp only [List.mapM_cons, bind_eq_ok_iff, ih, List.forall₂_cons_left_iff]
    constructor
    · rintro ⟨value, first, others, read, done⟩
      cases done
      exact ⟨value, others, first, read, rfl⟩
    · rintro ⟨value, others, first, read, rfl⟩
      exact ⟨value, first, others, read, rfl⟩

/-- Items of a list are not read in turn where one of them is not, and those before it are. -/
theorem mapM_eq_error_iff {read : α → Except ε β} {items : List α} {error : ε} :
    items.mapM read = .error error ↔
      ∃ before item after, items = before ++ item :: after ∧
        (∀ earlier ∈ before, ∃ value, read earlier = .ok value) ∧ read item = .error error := by
  -- By induction on the items; the first one fails itself or leaves it to the others.
  induction items with
  | nil => simp [Pure.pure, Except.pure]
  | cons first rest ih =>
    rw [List.mapM_cons, bind_eq_error_iff]
    constructor
    · rintro (failed | ⟨value, done, later⟩)
      · exact ⟨[], first, rest, rfl, by simp, failed⟩
      · obtain failed | ⟨_, _, impossible⟩ := bind_eq_error_iff.mp later
        · obtain ⟨before, item, after, rfl, read, failed⟩ := ih.mp failed
          exact ⟨first :: before, item, after, rfl,
            List.forall_mem_cons.mpr ⟨⟨value, done⟩, read⟩, failed⟩
        · cases impossible
    · rintro ⟨before, item, after, written, read, failed⟩
      -- The first item is the one that is not read, or it comes before that one.
      cases before with
      | nil =>
        cases written
        exact .inl failed
      | cons earlier before =>
        cases written
        obtain ⟨⟨value, done⟩, read⟩ := List.forall_mem_cons.mp read
        have later := ih.mpr ⟨before, item, after, rfl, read, failed⟩
        exact .inr ⟨value, done, bind_eq_error_iff.mpr (.inl later)⟩

/-- Lists are related through a list between them where their members are through something each. -/
theorem forall₂_through_iff {γ : Type} {first : α → β → Prop} {second : β → γ → Prop}
    {items : List α} {values : List γ} :
    (∃ between, List.Forall₂ first items between ∧ List.Forall₂ second between values) ↔
      List.Forall₂ (fun item value => ∃ step, first item step ∧ second step value)
        items values := by
  -- By induction along the two lists one way, and along the joint one the other way.
  constructor
  · rintro ⟨between, left, right⟩
    induction left generalizing values with
    | nil =>
      cases right
      exact .nil
    | cons related _ ih =>
      cases right with
      | cons further rest => exact .cons ⟨_, related, further⟩ (ih rest)
  · intro each
    -- The list between them is gathered from the members in between.
    induction each with
    | nil => exact ⟨[], .nil, .nil⟩
    | cons related _ ih =>
      obtain ⟨step, left, right⟩ := related
      obtain ⟨between, lefts, rights⟩ := ih
      exact ⟨step :: between, .cons left lefts, .cons right rights⟩

/-- Items have values beside them, all together, where each item has one. -/
theorem exists_forall₂_iff {related : α → β → Prop} {items : List α} :
    (∃ values, List.Forall₂ related items values) ↔
      ∀ item ∈ items, ∃ value, related item value := by
  -- By induction on the items, each of which brings a value of its own.
  induction items with
  | nil => simp
  | cons item rest ih =>
    rw [List.forall_mem_cons, ← ih]
    constructor
    · rintro ⟨_, _ | ⟨first, others⟩⟩
      exact ⟨⟨_, first⟩, _, others⟩
    · rintro ⟨⟨value, first⟩, values, others⟩
      exact ⟨value :: values, .cons first others⟩

section

variable {related : α → β → Prop} {items : List α} {values others : List β}

/-- A property of all that the items are related to holds of each value beside them. -/
theorem forall_mem_of_forall₂ (property : β → Prop) (each : List.Forall₂ related items values)
    (has : ∀ item ∈ items, ∀ value, related item value → property value) :
    ∀ value ∈ values, property value := by
  -- By induction along the two lists.
  induction each with
  | nil => simp
  | cons first _ ih =>
    obtain ⟨here, later⟩ := List.forall_mem_cons.mp has
    exact List.forall_mem_cons.mpr ⟨here _ first, ih later⟩

/-- Values beside the same items agree one by one where the items make them do so. -/
theorem forall₂_of_forall₂ {agree : β → β → Prop} (each : List.Forall₂ related items values)
    (again : List.Forall₂ related items others)
    (same : ∀ item ∈ items, ∀ value other, related item value → related item other →
      agree value other) : List.Forall₂ agree values others := by
  -- By induction along the first two lists, and the third one follows the items.
  induction each generalizing others with
  | nil =>
    cases again
    exact .nil
  | cons first _ ih =>
    obtain ⟨here, later⟩ := List.forall_mem_cons.mp same
    cases again with
    | cons second rest => exact .cons (here _ _ first second) (ih rest later)

/-- What stands at an index of the items is related to what stands at that index of the values. -/
theorem rel_getElem?_of_forall₂ (each : List.Forall₂ related items values) (index : Nat) :
    Option.Rel related items[index]? values[index]? := by
  -- By induction along the two lists, with the index going down.
  induction each generalizing index with
  | nil => exact .none
  | cons first _ ih =>
    cases index with
    | zero => exact .some first
    | succ index => exact ih index

end

/-- A value found under a key stands with it in one of the entries. -/
theorem mem_of_lookup {κ : Type} [BEq κ] [LawfulBEq κ] {entries : List (κ × α)} {key : κ}
    {value : α} (found : entries.lookup key = some value) : (key, value) ∈ entries := by
  -- The lookup stops at an entry of exactly this key.
  obtain ⟨before, after, split, _⟩ := List.lookup_eq_some_iff.mp found
  simp [split]

/-- Where each entry keeps its key, what is found under a key is what was found there, changed. -/
theorem lookup_map_entries {κ : Type} [BEq κ] [LawfulBEq κ] (change : κ → α → β)
    (entries : List (κ × α)) (key : κ) :
    (entries.map fun entry => (entry.1, change entry.1 entry.2)).lookup key =
      (entries.lookup key).map (change key) := by
  -- By induction on the entries.
  induction entries with
  | nil => rfl
  | cons entry rest ih =>
    obtain ⟨other, value⟩ := entry
    rw [List.map_cons, List.lookup_cons, List.lookup_cons, ih]
    cases same : key == other with
    | true =>
      rw [eq_of_beq same]
      rfl
    | false => rfl

/-- Where entries are picked by their keys, an entry is found under its key if that is picked. -/
theorem lookup_filter_entries {κ : Type} [BEq κ] [LawfulBEq κ] (pick : κ → Bool)
    (entries : List (κ × α)) (key : κ) :
    (entries.filter fun entry => pick entry.1).lookup key =
      if pick key then entries.lookup key else none := by
  -- By induction on the entries; one that is picked or has another key does not hide any.
  induction entries with
  | nil => simp
  | cons entry rest ih =>
    obtain ⟨other, value⟩ := entry
    cases same : key == other with
    | true =>
      obtain rfl := eq_of_beq same
      by_cases picked : pick key <;> simp [picked, ih]
    | false =>
      by_cases picked : pick other <;> simp [List.lookup_cons, picked, same, ih]

end LocoSounds
