import LocoSounds.Token
import Mathlib.Data.List.Forall2
import Mathlib.Data.List.Induction

/-! Entries put in one after another: the place that each key keeps, and the token it ends with. -/

namespace LocoSounds

/-- A key names the same entry as another one where that one names the same entry as it. -/
theorem Scalar.sameKey_comm (key other : Scalar) : key.sameKey other = other.sameKey key := by
  -- What tells keys apart is compared, and equality is symmetric.
  unfold Scalar.sameKey
  cases key.identity? <;> cases other.identity? <;> simp [eq_comm]

/-- Two keys name the same entry where the same thing tells both of them apart from others. -/
theorem Scalar.sameKey_iff {key other : Scalar} :
    key.sameKey other ↔
      ∃ identity, key.identity? = some identity ∧ other.identity? = some identity := by
  -- Keys that nothing tells apart from others, such as those that differ from themselves, match
  -- none.
  unfold Scalar.sameKey
  cases key.identity? <;> cases other.identity? <;> simp [eq_comm]

/-- Two keys of one entry name the same entries as any third key. -/
theorem Scalar.sameKey_congr {key other : Scalar} (same : key.sameKey other) (third : Scalar) :
    third.sameKey key = third.sameKey other := by
  -- The same thing tells both keys apart from any third one.
  obtain ⟨identity, left, right⟩ := Scalar.sameKey_iff.mp same
  unfold Scalar.sameKey
  rw [left, right]

namespace Entries

/-- Two keys of one entry name an entry of the same lists. -/
theorem hasKey_congr {entries : Entries} {key other : Scalar} (same : key.sameKey other) :
    entries.hasKey key = entries.hasKey other := by
  -- Each entry is compared with either key alike.
  simp only [hasKey, Scalar.sameKey_congr same]

/-- The token under a key, the last one where more than one was given. -/
def last? (entries : Entries) (key : Scalar) : Option Token :=
  (entries.reverse.find? (·.1.sameKey key)).map (·.2)

/-- What is given later is found first. -/
theorem last?_append (entries later : Entries) (key : Scalar) :
    last? (entries ++ later) key = (later.last? key).or (entries.last? key) := by
  -- The search goes from the end, so it comes to the later entries first.
  unfold last?
  rw [List.reverse_append, List.find?_append]
  cases later.reverse.find? (·.1.sameKey key) <;> rfl

/-- The first entry is found under its own key where no later one is. -/
theorem last?_cons (entry : Scalar × Token) (rest : Entries) (key : Scalar) :
    last? (entry :: rest) key =
      (rest.last? key).or (if entry.1.sameKey key then some entry.2 else none) := by
  -- The list is the first entry followed by the rest.
  rw [← List.singleton_append, last?_append]
  by_cases found : entry.1.sameKey key <;> simp [last?, found]

/-- One more entry is found under its own key and hides nothing under others. -/
theorem last?_concat (entries : Entries) (key other : Scalar) (token : Token) :
    last? (entries ++ [(key, token)]) other =
      if key.sameKey other then some token else entries.last? other := by
  -- What stands last is looked at first.
  rw [last?_append]
  by_cases same : key.sameKey other <;> simp [last?, same]

/-- Nothing is found under a key that names no entry. -/
theorem last?_eq_none_iff {entries : Entries} {key : Scalar} :
    entries.last? key = none ↔ entries.hasKey key = false := by
  -- The search finds nothing where no entry has the key.
  simp [last?, hasKey]

/-- Nothing is found under a key that is not even the same as itself. -/
theorem last?_eq_none_of_not_sameKey {entries : Entries} {key : Scalar}
    (strange : key.sameKey key = false) : entries.last? key = none := by
  -- A key that is the same as any other one is the same as itself.
  rw [last?_eq_none_iff, hasKey, List.any_eq_false]
  intro entry _ same
  rw [← Scalar.sameKey_congr same key, Scalar.sameKey_comm, same] at strange
  cases strange

/-- Of many lists, one after another, the last one that has a key gives the token under it. -/
theorem last?_flatMap {α : Type} (items : List α) (entriesOf : α → Entries) (key : Scalar) :
    last? (items.flatMap entriesOf) key =
      items.reverse.findSome? fun item => (entriesOf item).last? key := by
  -- What the first list has comes after what any other one has.
  induction items with
  | nil => rfl
  | cons item rest ih =>
    rw [List.flatMap_cons, last?_append, ih, List.reverse_cons, List.findSome?_append]
    cases found : (entriesOf item).last? key <;> simp [found]

/-- A key given again takes no place of its own. -/
theorem length_insert (entries : Entries) (key : Scalar) (token : Token) :
    (entries.insert key token).length = entries.length + if entries.hasKey key then 0 else 1 := by
  -- The key is there, and its token is replaced in place, or a new entry is added.
  unfold insert
  cases entries.hasKey key <;> simp

/-- Entries given later are put in one after another. -/
theorem ofPairs_append (given later : Entries) :
    ofPairs (given ++ later) =
      later.foldl (fun entries entry => entries.insert entry.1 entry.2) (ofPairs given) :=
  List.foldl_append

/-- The entries whose keys no entry before them has. -/
def firsts (given : Entries) : Entries :=
  given.eraseDupsBy fun entry earlier => earlier.1.sameKey entry.1

/-- One more entry is among the first ones unless one of those has its key. -/
theorem firsts_concat (given : Entries) (entry : Scalar × Token) :
    firsts (given ++ [entry]) =
      if given.firsts.hasKey entry.1 then given.firsts else given.firsts ++ [entry] := by
  -- The entries kept so far are held last one first, and the new one is compared with them all.
  have loop : ∀ kept : Entries,
      List.eraseDupsBy.loop (fun entry earlier => earlier.1.sameKey entry.1)
          (given ++ [entry]) kept =
        let first :=
          List.eraseDupsBy.loop (fun entry earlier => earlier.1.sameKey entry.1) given kept
        if hasKey first entry.1 then first else first ++ [entry] := by
    induction given with
    | nil =>
      intro kept
      simp only [List.nil_append, List.eraseDupsBy.loop, hasKey, List.any_reverse]
      cases kept.any fun earlier => earlier.1.sameKey entry.1 <;> simp
    | cons first rest ih =>
      intro kept
      rw [List.cons_append, List.eraseDupsBy.loop, List.eraseDupsBy.loop]
      split
      · exact ih kept
      · exact ih (first :: kept)
  exact loop []

/-- Entries given one after another leave each key where it was given first, with the token that was
given for it last. -/
theorem ofPairs_eq (given : Entries) :
    ofPairs given =
      given.firsts.map fun entry => (entry.1, (given.last? entry.1).getD entry.2) := by
  -- One more entry changes the token of an earlier one or goes to the end.
  induction given using List.reverseRecOn with
  | nil => rfl
  | append_singleton given entry ih =>
    obtain ⟨key, token⟩ := entry
    have step : ofPairs (given ++ [(key, token)]) = (ofPairs given).insert key token := by
      rw [ofPairs, List.foldl_append]
      rfl
    have known : hasKey ((firsts given).map fun entry =>
        (entry.1, (last? given entry.1).getD entry.2)) key = (firsts given).hasKey key := by
      simp only [hasKey, List.any_map, Function.comp_def]
    rw [step, ih, firsts_concat, insert, known]
    simp only [last?_concat]
    cases again : (firsts given).hasKey key with
    | true =>
      -- The key keeps its place, and the token that was there is replaced.
      rw [if_pos rfl, if_pos rfl, List.map_map]
      refine List.map_congr_left fun entry _ => ?_
      rw [Scalar.sameKey_comm key, Function.comp_apply]
      cases entry.1.sameKey key <;> rfl
    | false =>
      -- The key is new, so no entry before it is found under another token than before.
      have fresh : ∀ entry ∈ firsts given, key.sameKey entry.1 = false := by
        intro entry member
        rw [Scalar.sameKey_comm]
        exact Bool.eq_false_iff.mpr (List.any_eq_false.mp again entry member)
      have own : (if key.sameKey key then some token else last? given key).getD token = token := by
        split
        · rfl
        · rename_i strange
          rw [last?_eq_none_of_not_sameKey (Bool.eq_false_iff.mpr strange), Option.getD_none]
      rw [if_neg Bool.false_ne_true, if_neg Bool.false_ne_true, List.map_append]
      refine congrArg₂ (· ++ ·) (List.map_congr_left fun entry member => ?_) ?_
      · rw [fresh entry member, if_neg Bool.false_ne_true]
      · rw [List.map_singleton, own]

section

variable {related : Scalar × Token → Scalar × Token → Prop} {given others : Entries}

/-- Entries beside others of the same keys name the same entries. -/
theorem hasKey_eq_of_forall₂ (keys : ∀ entry other, related entry other → entry.1 = other.1)
    (each : List.Forall₂ related given others) (key : Scalar) :
    given.hasKey key = others.hasKey key := by
  -- By induction along the two lists, whose keys agree entry by entry.
  unfold hasKey
  induction each with
  | nil => rfl
  | cons first _ ih => rw [List.any_cons, List.any_cons, keys _ _ first, ih]

/-- Entries beside others of the same keys have their first ones at the same places. -/
theorem forall₂_firsts (keys : ∀ entry other, related entry other → entry.1 = other.1)
    (each : List.Forall₂ related given others) :
    List.Forall₂ related given.firsts others.firsts := by
  -- Both lists are gone through side by side and keep the same places.
  have loop : ∀ kept beside : Entries, List.Forall₂ related kept beside →
      List.Forall₂ related
        (List.eraseDupsBy.loop (fun entry earlier => earlier.1.sameKey entry.1) given kept)
        (List.eraseDupsBy.loop (fun entry earlier => earlier.1.sameKey entry.1) others beside) := by
    induction each with
    | nil => exact fun kept beside before => List.rel_reverse before
    | @cons entry other _ _ first _ ih =>
      intro kept beside before
      have known : (kept.any fun earlier => earlier.1.sameKey entry.1) =
          beside.any fun earlier => earlier.1.sameKey other.1 := by
        rw [keys _ _ first]
        exact hasKey_eq_of_forall₂ keys before other.1
      rw [List.eraseDupsBy.loop, List.eraseDupsBy.loop, known]
      split
      · exact ih kept beside before
      · exact ih _ _ (.cons first before)
  exact loop [] [] .nil

/-- Entries have the same token under a key where those that it names have the same tokens. -/
theorem last?_eq_of_forall₂ {key : Scalar} (each : List.Forall₂ (fun entry other =>
      entry.1 = other.1 ∧ (entry.1.sameKey key → entry.2 = other.2)) given others) :
    given.last? key = others.last? key := by
  -- Both lists are searched in step, and a token is compared only where its key is the one.
  induction each with
  | nil => rfl
  | @cons entry other _ _ first _ ih =>
    obtain ⟨named, same⟩ := first
    rw [last?_cons, last?_cons, ih, ← named]
    by_cases found : entry.1.sameKey key
    · rw [same found]
    · rw [if_neg found, if_neg found]

end

end Entries

end LocoSounds
