import LocoSounds.Proofs.Success
import LocoSounds.SoundSet
import Mathlib.Data.List.Nodup

/-! Laws of sound sets: what stands in a slot once sounds were put in, and sets laid over others. -/

namespace LocoSounds.SoundSet

/-- One sound set laid over another. A slot of both keeps its place in the lower set and takes the
sound of the upper one, and slots of the upper set alone follow in its order. -/
def overlay (below above : SoundSet) : SoundSet :=
  ⟨(below.entries.map fun entry => (entry.1, (above.get? entry.1).getD entry.2)) ++
    above.entries.filter fun entry => !below.contains entry.1⟩

/-- An entry with a new sound if it is the one of a slot. -/
def replace (slot : Slot) (sound : Sound) (entry : Slot × Sound) : Slot × Sound :=
  (entry.1, if entry.1 = slot then sound else entry.2)

/-- A slot is filled where a sound is found in it. -/
theorem contains_eq_isSome (set : SoundSet) (slot : Slot) :
    set.contains slot = (set.get? slot).isSome := by
  -- Slots are the keys that the entries of a set are looked up by.
  rw [Bool.eq_iff_iff, get?, List.lookup_isSome_iff, contains, List.any_eq_true]
  exact exists_congr fun entry => and_congr_right fun _ => by
    rw [beq_iff_eq, decide_eq_true_iff, eq_comm]

/-- A slot is filled where it is one of the filled slots. -/
theorem contains_iff_mem_slots {set : SoundSet} {slot : Slot} :
    set.contains slot ↔ slot ∈ set.slots := by
  -- Both ask whether an entry of the slot is there.
  simp [contains, slots]

/-- Filling a slot replaces what stands in it, or adds an entry where it was not filled before. -/
theorem entries_insert (set : SoundSet) (slot : Slot) (sound : Sound) :
    (set.insert slot sound).entries = set.entries.map (replace slot sound) ++
      if set.contains slot then [] else [(slot, sound)] := by
  -- A slot that is filled has its entry replaced in place, and one that is not gets it at the end.
  rw [insert]
  split
  · rw [List.append_nil]
    refine List.map_congr_left fun entry _ => ?_
    by_cases same : entry.1 = slot <;> simp [replace, same]
  · -- No entry is the one of the slot, so none is replaced.
    rename_i free
    have kept : ∀ entry ∈ set.entries, replace slot sound entry = entry := by
      intro entry member
      have other : entry.1 ≠ slot := fun same =>
        free (contains_iff_mem_slots.mpr (List.mem_map.mpr ⟨entry, member, same⟩))
      rw [replace, if_neg other]
    rw [List.map_congr_left kept, List.map_id']

/-- The sound put in is found in its slot, and every other slot is as it was. -/
theorem get?_insert (set : SoundSet) (slot : Slot) (sound : Sound) (other : Slot) :
    (set.insert slot sound).get? other = if other = slot then some sound else set.get? other := by
  -- The entries are replaced or extended, and a lookup sees either only in the slot itself.
  have replaced := lookup_map_entries (fun other old => if other = slot then sound else old)
    set.entries other
  rw [get?, entries_insert, List.lookup_append]
  refine (congrArg (Option.or · _) replaced).trans ?_
  by_cases same : other = slot
  · -- The slot held a sound, which is replaced, or there is a new entry of it.
    subst same
    rw [contains_eq_isSome, get?]
    cases set.entries.lookup other <;> simp
  · have different : (other == slot) = false := beq_eq_false_iff_ne.mpr same
    cases set.contains slot <;> simp [same, different, List.lookup_cons, get?]

/-- Filling a slot leaves the slots as they are, or adds one that is filled for the first time. -/
theorem slots_insert (set : SoundSet) (slot : Slot) (sound : Sound) :
    (set.insert slot sound).slots = set.slots ++ if set.contains slot then [] else [slot] := by
  -- To replace the sound of an entry leaves its slot alone, so only a new entry counts.
  rw [slots, entries_insert, List.map_append, List.map_map, slots]
  cases set.contains slot <;> rfl

/-- Slots that are distinct stay so when one of them or another one is filled. -/
theorem slots_nodup_insert {set : SoundSet} (distinct : set.slots.Nodup) (slot : Slot)
    (sound : Sound) : (set.insert slot sound).slots.Nodup := by
  -- A slot is added only where it is not among the filled ones.
  rw [slots_insert]
  split
  · rwa [List.append_nil]
  · rename_i free
    rw [contains_iff_mem_slots] at free
    rw [← List.concat_eq_append]
    exact distinct.concat free

/-- In each slot stands the last of the sounds for it, or what stood there if there is none. -/
theorem get?_foldl_apply (sounds : List Sound) (set : SoundSet) (slot : Slot) :
    (sounds.foldl (fun set sound => sound.apply set) set).get? slot =
      ((sounds.filter (·.slot = slot)).getLast?).or (set.get? slot) := by
  -- By induction on the sounds, of which later ones replace earlier ones of the same slot.
  induction sounds generalizing set with
  | nil => rfl
  | cons sound rest ih =>
    rw [List.foldl_cons, ih, Sound.apply, get?_insert, List.filter_cons]
    by_cases same : sound.slot = slot
    · -- The first sound stays in the slot only if none of the others is for it.
      simp only [same, decide_true, if_true, List.getLast?_cons]
      cases (rest.filter (·.slot = slot)).getLast? <;> rfl
    · have different : slot ≠ sound.slot := Ne.symm same
      simp only [same, different, decide_false, if_false, Bool.false_eq_true]

/-- A slot is filled once a sound for it was put in, or if it was filled before. -/
theorem contains_foldl_apply (sounds : List Sound) (set : SoundSet) (slot : Slot) :
    (sounds.foldl (fun set sound => sound.apply set) set).contains slot ↔
      (∃ sound ∈ sounds, sound.slot = slot) ∨ set.contains slot := by
  -- A slot is filled where a sound is found in it, which is one put in or one from before.
  rw [contains_eq_isSome, get?_foldl_apply, Option.isSome_or, Bool.or_eq_true,
    List.getLast?_isSome, ← contains_eq_isSome, Ne, List.filter_eq_nil_iff]
  simp

/-- Slots that are distinct stay so however many sounds are put in. -/
theorem slots_nodup_foldl_apply (sounds : List Sound) {set : SoundSet}
    (distinct : set.slots.Nodup) :
    (sounds.foldl (fun set sound => sound.apply set) set).slots.Nodup := by
  -- By induction on the sounds, each of which keeps the slots distinct.
  induction sounds generalizing set with
  | nil => exact distinct
  | cons sound rest ih => exact ih (slots_nodup_insert distinct sound.slot sound)

variable (below above : SoundSet)

/-- Nothing laid over a set leaves the set. -/
theorem overlay_empty : below.overlay .empty = below := by
  -- No entry is replaced and none is added.
  simp [overlay, empty, get?]

/-- A set laid over another gives its own sounds, and those of the other where it has none. -/
theorem get?_overlay (slot : Slot) :
    (below.overlay above).get? slot = (above.get? slot).or (below.get? slot) := by
  -- The entries of the lower set are changed in place, and those with free slots are added.
  have kept := lookup_map_entries (fun slot old => (above.get? slot).getD old) below.entries slot
  have added := lookup_filter_entries (fun slot => !below.contains slot) above.entries slot
  rw [get?, overlay, List.lookup_append, kept, added, contains_eq_isSome]
  -- A slot of the lower set holds something either way, any other one only the upper sound.
  cases held : below.get? slot with
  | none =>
    rw [get?] at held
    simp [held, get?]
  | some old =>
    rw [get?] at held
    cases taken : above.get? slot <;> simp [held]

/-- The slots of the lower set come first, then those that only the upper one fills. -/
theorem slots_overlay :
    (below.overlay above).slots = below.slots ++ above.slots.filter (!below.contains ·) := by
  -- Replaced sounds keep their slots, and the added ones are picked by theirs.
  simp [slots, overlay, List.filter_map, Function.comp_def]

/-- The slots of either set are filled once one is laid over the other. -/
theorem contains_overlay (slot : Slot) :
    (below.overlay above).contains slot = (below.contains slot || above.contains slot) := by
  -- A slot is filled where a sound is found in it.
  rw [contains_eq_isSome, get?_overlay, Option.isSome_or, contains_eq_isSome, contains_eq_isSome,
    Bool.or_comm]

/-- A sound put into two sets, one laid over the other, is put into the upper one. -/
theorem insert_overlay (slot : Slot) (sound : Sound) :
    (below.overlay above).insert slot sound = below.overlay (above.insert slot sound) := by
  -- The lower entries take the new sound on either side.
  have lower : (below.entries.map fun entry => (entry.1, (above.get? entry.1).getD entry.2)).map
      (replace slot sound) = below.entries.map fun entry =>
        (entry.1, ((above.insert slot sound).get? entry.1).getD entry.2) := by
    rw [List.map_map]
    refine List.map_congr_left fun entry _ => ?_
    rw [get?_insert]
    by_cases same : entry.1 = slot <;> simp [replace, same]
  -- The upper entries do so as well, and those left out are left out before and after.
  have upper :
      (above.entries.filter fun entry => !below.contains entry.1).map (replace slot sound) =
      (above.entries.map (replace slot sound)).filter fun entry => !below.contains entry.1 := by
    rw [List.filter_map]
    rfl
  -- A new entry follows where neither set has the slot.
  have added : (if (below.overlay above).contains slot then [] else [(slot, sound)]) =
      (if above.contains slot then [] else [(slot, sound)]).filter
        fun entry => !below.contains entry.1 := by
    rw [contains_overlay]
    cases inBelow : below.contains slot <;> cases above.contains slot <;> simp [inBelow]
  have entries : ((below.overlay above).insert slot sound).entries =
      (below.overlay (above.insert slot sound)).entries := by
    rw [entries_insert, added, overlay, List.map_append, lower, upper, List.append_assoc,
      ← List.filter_append, ← entries_insert]
    rfl
  exact congrArg SoundSet.mk entries

end LocoSounds.SoundSet
