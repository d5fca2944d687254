import LocoSounds.Token

/-! The tokens that stand inside a token: the values under names and the items of lists. -/

namespace LocoSounds

/-- What is found under a name stands in the mapping with that name. -/
theorem Entries.mem_of_get? {entries : Entries} {name : String} {token : Token}
    (found : entries.get? name = some token) : (.text name, token) ∈ entries := by
  -- The search stops at an entry of exactly this key.
  unfold Entries.get? at found
  split at found
  · rename_i key value located
    cases found
    have named : key = .text name := by simpa using List.find?_some located
    exact named ▸ List.mem_of_find?_eq_some located
  · cases found

/-- The entry that comes first is the one under its name. -/
theorem Entries.get?_cons (key : Scalar) (token : Token) (rest : Entries) (name : String) :
    Entries.get? ((key, token) :: rest) name =
      if key = .text name then some token else Entries.get? rest name := by
  -- The search looks at the first entry first.
  unfold Entries.get?
  by_cases same : key = .text name <;> simp [same]

/-- Something is found under a name where an entry has the name as its key. -/
theorem Entries.isSome_get?_iff {entries : Entries} {name : String} :
    (entries.get? name).isSome ↔ ∃ entry ∈ entries, entry.1 = .text name := by
  -- By induction on the entries, as the search goes through them.
  induction entries with
  | nil => simp [get?]
  | cons entry rest ih =>
    obtain ⟨key, token⟩ := entry
    rw [get?_cons]
    simp only [List.mem_cons, exists_eq_or_imp, ← ih]
    by_cases here : key = .text name <;> simp [here]

/-- What is found among some entries hides what later ones have under the same name. -/
theorem Entries.get?_append (entries later : Entries) (name : String) :
    Entries.get? (entries ++ later) name = (entries.get? name).or (later.get? name) := by
  -- By induction on the earlier entries, as the search goes through them.
  induction entries with
  | nil => rfl
  | cons entry rest ih =>
    obtain ⟨key, token⟩ := entry
    rw [List.cons_append, get?_cons, get?_cons, ih]
    split <;> rfl

/-- A token has a property, and where it is a list so has each of its items. -/
def Token.HasWithItems (property : Token → Prop) (token : Token) : Prop :=
  property token ∧ ∀ items, token = .list items → ∀ item ∈ items, property item

/-- Induction on tokens: a mapping has the property once what stands under its names has it, and what
stands in the lists under them. -/
theorem Token.induction {motive : Token → Prop}
    (mapping : ∀ entries : Entries,
      (∀ name token, entries.get? name = some token → motive token) →
      (∀ name items, entries.get? name = some (.list items) → ∀ item ∈ items, motive item) →
      motive (.mapping entries))
    (other : ∀ token, (∀ entries, token ≠ .mapping entries) → motive token) :
    ∀ token, motive token := by
  -- A list has no property of its own, so what is carried along is that its items have it.
  have all : ∀ token, HasWithItems motive token := by
    refine @Token.rec (HasWithItems motive) (fun items => ∀ item ∈ items, HasWithItems motive item)
      (fun entries => ∀ entry ∈ entries, HasWithItems motive entry.2)
      (fun entry => HasWithItems motive entry.2) ?_ ?_ ?_ ?_ ?_ ?_ ?_ ?_ ?_ ?_
    · exact fun value => ⟨other _ nofun, nofun⟩
    · -- The items of a list are looked at from the mapping around it.
      intro items each
      refine ⟨other _ nofun, ?_⟩
      rintro _ ⟨⟩ item member
      exact (each item member).1
    · exact fun items _ => ⟨other _ nofun, nofun⟩
    · exact fun members => ⟨other _ nofun, nofun⟩
    · intro entries each
      refine ⟨mapping entries (fun name token found => ?_) fun name items found => ?_, nofun⟩
      · exact (each _ (Entries.mem_of_get? found)).1
      · exact (each _ (Entries.mem_of_get? found)).2 items rfl
    · simp
    · intro item rest first others
      exact List.forall_mem_cons.mpr ⟨first, others⟩
    · simp
    · intro entry rest first others
      exact List.forall_mem_cons.mpr ⟨first, others⟩
    · intro _ _ value
      exact value
  exact fun token => (all token).1

end LocoSounds
