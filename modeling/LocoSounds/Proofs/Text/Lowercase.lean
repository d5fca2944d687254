import LocoSounds.Text.Lowercase

/-! Lower-case forms do not tell apart texts that differ in the case of ASCII letters alone. -/

namespace LocoSounds

/-- The characters of a text in small ASCII letters. -/
theorem toList_toLower (text : String) : text.toLower.toList = text.toList.map Char.toLower :=
  String.toList_map

/-- Texts differ in the case of ASCII letters alone where their characters do. -/
theorem toLower_eq_toLower_iff {text other : String} :
    text.toLower = other.toLower ↔
      text.toList.map Char.toLower = other.toList.map Char.toLower := by
  -- Texts are compared by their characters, each of which is made small on its own.
  rw [← String.toList_inj, toList_toLower, toList_toLower]

/-- A function that has the same value on each capital ASCII letter as on its small one does not see
the case of ASCII letters. -/
theorem apply_toLower {α : Type} {f : Char → α}
    (each : ∀ offset : Fin 26, f (Char.ofNat (65 + offset)).toLower = f (Char.ofNat (65 + offset)))
    (c : Char) : f c.toLower = f c := by
  -- A character is one of the 26 capitals, each of which is checked, or it is left as it is.
  by_cases capital : 65 ≤ c.toNat ∧ c.toNat ≤ 90
  · have here := each ⟨c.toNat - 65, by omega⟩
    have code : 65 + (c.toNat - 65) = c.toNat := by omega
    rwa [code, Char.ofNat_toNat] at here
  · -- Every other character is its own small letter.
    have kept : c.toLower = c := by
      unfold Char.toLower
      exact dif_neg capital
    rw [kept]

/-- The lower-case form of a character by itself is that of its small letter. -/
@[simp] theorem lowercaseChar_toLower (c : Char) : lowercaseChar c.toLower = lowercaseChar c :=
  apply_toLower (by decide +kernel) c

/-- No ASCII letter is a sigma. -/
theorem toLower_eq_sigma_iff (c : Char) : c.toLower = 'Σ' ↔ c = 'Σ' := by
  -- The test for a sigma comes out the same on each capital and its small letter.
  have same : decide (c.toLower = 'Σ') = decide (c = 'Σ') :=
    apply_toLower (f := fun c => decide (c = 'Σ')) (by decide +kernel) c
  simpa using same

/-- Case rules skip no ASCII letter. -/
theorem not_caseIgnorable {c : Char}
    (letter : 65 ≤ c.toNat ∧ c.toNat ≤ 90 ∨ 97 ≤ c.toNat ∧ c.toNat ≤ 122) :
    CodeRange.anyContains caseIgnorableRanges c = false := by
  -- Each block of the table ends before the letters, or begins behind them, or lies between.
  have apart : ∀ range ∈ caseIgnorableRanges,
      range.last < 65 ∨ (90 < range.first ∧ range.last < 97) ∨ 122 < range.first := by
    decide +kernel
  rw [CodeRange.anyContains, List.any_eq_false]
  intro range member within
  have outside := apart range member
  simp only [CodeRange.contains, Bool.and_eq_true, decide_eq_true_eq] at within
  omega

/-- What case rules skip goes by small letters. -/
theorem anyContains_caseIgnorable_toLower (c : Char) :
    CodeRange.anyContains caseIgnorableRanges c.toLower =
      CodeRange.anyContains caseIgnorableRanges c := by
  -- Neither capitals nor small letters are among what is skipped.
  have capital : ∀ offset : Fin 26, 65 ≤ (Char.ofNat (65 + offset)).toNat ∧
      (Char.ofNat (65 + offset)).toNat ≤ 90 := by decide
  have small : ∀ offset : Fin 26, 97 ≤ (Char.ofNat (65 + offset)).toLower.toNat ∧
      (Char.ofNat (65 + offset)).toLower.toNat ≤ 122 := by decide
  refine apply_toLower (fun offset => ?_) c
  rw [not_caseIgnorable (.inr (small offset)), not_caseIgnorable (.inl (capital offset))]

/-- What has a case goes by small letters. -/
theorem anyContains_cased_toLower (c : Char) :
    CodeRange.anyContains casedRanges c.toLower = CodeRange.anyContains casedRanges c :=
  apply_toLower (by decide +kernel) c

/-- Whether the nearest character has a case can be told from the small letters. -/
theorem nextIsCased_map_toLower (chars : List Char) :
    nextIsCased (chars.map Char.toLower) = nextIsCased chars := by
  -- The same characters are skipped, and the first one that is not has a case or has none.
  have skipped : CodeRange.anyContains caseIgnorableRanges ∘ Char.toLower =
      CodeRange.anyContains caseIgnorableRanges := funext anyContains_caseIgnorable_toLower
  unfold nextIsCased
  rw [List.dropWhile_map, skipped]
  cases chars.dropWhile (CodeRange.anyContains caseIgnorableRanges) with
  | nil => rfl
  | cons c rest => exact anyContains_cased_toLower c

/-- The lower-case forms of characters are those of their small letters. -/
theorem lowercaseFrom_map_toLower (before chars : List Char) :
    lowercaseFrom (before.map Char.toLower) (chars.map Char.toLower) =
      lowercaseFrom before chars := by
  -- Each character joins those before it, in its small letter on one side.
  induction chars generalizing before with
  | nil => rfl
  | cons c rest ih =>
    have onward := ih (c :: before)
    rw [List.map_cons] at onward
    rw [List.map_cons, lowercaseFrom, lowercaseFrom, onward, nextIsCased_map_toLower,
      nextIsCased_map_toLower, lowercaseChar_toLower]
    simp only [toLower_eq_sigma_iff]

/-- The lower-case form of a text is that of its small letters. -/
@[simp] theorem lowercase_toLower (text : String) : lowercase text.toLower = lowercase text := by
  -- The text is made lower character by character, and none of them sees the case of letters.
  rw [lowercase, lowercase, toList_toLower]
  exact congrArg String.ofList (lowercaseFrom_map_toLower [] text.toList)

/-- Texts that differ in the case of ASCII letters alone have one lower-case form. -/
theorem lowercase_eq_of_toLower_eq {text other : String} (same : text.toLower = other.toLower) :
    lowercase text = lowercase other := by
  -- Both come to the lower-case form of the text that they share.
  rw [← lowercase_toLower text, same, lowercase_toLower]

/-- What has names that differ in lower case as well is found by its own name in whatever case. -/
theorem find?_lowercase_eq_some_iff {α : Type} {all : List α} {nameOf : α → String}
    (every : ∀ item, item ∈ all)
    (apart : ∀ item ∈ all, ∀ other ∈ all, lowercase (nameOf item) = lowercase (nameOf other) →
      item = other) {text : String} {item : α} :
    all.find? (fun item => lowercase (nameOf item) = lowercase text) = some item ↔
      lowercase text = lowercase (nameOf item) := by
  -- What is found has the name, and no other item has a name with the same lower-case form.
  constructor
  · intro found
    have same := List.find?_some found
    exact (of_decide_eq_true same).symm
  · intro same
    cases found : all.find? (fun item => lowercase (nameOf item) = lowercase text) with
    | none => exact absurd same.symm (by simpa using List.find?_eq_none.mp found item (every item))
    | some other =>
      have named := List.find?_some found
      have equal := (of_decide_eq_true named).trans same
      rw [apart other (every other) item (every item) equal]

end LocoSounds
