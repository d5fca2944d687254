import LocoSounds.Proofs.Binary64.Exactness
import LocoSounds.Proofs.Registry.Build
import LocoSounds.Proofs.Rule.Grammar

/-! The grammar of sounds as a relation between mappings and sounds, and that reading decides it. -/

namespace LocoSounds

/-- A token holds items: a list, a tuple, or a set with its members as they come. -/
inductive Token.Holds : Token → List Token → Prop where
  | list (items : List Token) : Holds (.list items) items
  | tuple (items : List Token) : Holds (.tuple items) items
  | set (members : List Scalar) : Holds (.set members) (members.map .scalar)

/-- A token spells a text: it is the text, or bytes that encode it. -/
inductive Token.Spells : Token → String → Prop where
  | text (text : String) : Spells (.scalar (.text text)) text
  | bytes {bytes : List UInt8} {text : String} (encoded : textOfBytes? bytes = some text) :
      Spells (.scalar (.bytes bytes)) text

/-- The slot that a mapping names under `type`: by a text, whatever the case of its letters, or by bytes
that encode the name of the slot letter by letter. -/
inductive Entries.NamesSlot (entries : Entries) (slot : Slot) : Prop where
  | text {name : String} (written : entries.Says "type" name)
      (same : lowercase name = lowercase slot.name)
  | bytes {bytes : List UInt8} (found : entries.get? "type" = some (.scalar (.bytes bytes)))
      (encoded : Token.textOfBytes? bytes = some slot.name)

/-- The files that a mapping names: some under `filenames`, or where that is missing the one under
`filename`. -/
inductive Entries.NamesFiles (entries : Entries) : List String → Prop where
  | many {token : Token} {items : List Token} {files : List String}
      (found : entries.get? "filenames" = some token) (holds : token.Holds items)
      (some : items ≠ []) (each : List.Forall₂ Token.Spells items files) : NamesFiles entries files
  | single {token : Token} {file : String} (none : entries.get? "filenames" = none)
      (found : entries.get? "filename" = some token) (spells : token.Spells file) :
      NamesFiles entries [file]

/-- Some files are named where any are. -/
theorem Entries.NamesFiles.ne_nil {entries : Entries} {files : List String}
    (names : entries.NamesFiles files) : files ≠ [] := by
  -- A list of files may not be empty, and one file makes a list of one.
  cases names with
  | many _ _ some each =>
    rintro rfl
    cases each
    exact some rfl
  | single => exact List.cons_ne_nil _ _

namespace Sound

namespace NumberField

/-- The names that a number field goes by. -/
def spellings (field : NumberField) : List String := [field.camelCase, field.snakeCase]

/-- What a number field may be set to: pitches are above zero, fades at or above it. -/
def Allows : NumberField → Binary64 → Prop
  | .pitch, number | .minPitch, number | .maxPitch, number => .zero < number
  | .fadeStart, number | .fadeWidth, number => .zero ≤ number

/-- What a mapping sets a number field to: nothing where the field is missing or null, and otherwise
the number that is written, which the field has to allow. -/
inductive SetTo (field : NumberField) (entries : Entries) : Option Binary64 → Prop where
  | missing (unset : ∀ spelling ∈ field.spellings, entries.get? spelling = none) :
      SetTo field entries none
  | null {spelling : String} (spelled : spelling ∈ field.spellings)
      (null : entries.get? spelling = some (.scalar .null)) : SetTo field entries none
  | number {spelling : String} {token : Token} {number : Binary64}
      (spelled : spelling ∈ field.spellings) (found : entries.get? spelling = some token)
      (reads : token.toNumber = .ok number) (allowed : field.Allows number) :
      SetTo field entries (some number)

/-- A mapping has a number field under one name at most. -/
def SpelledOnce (field : NumberField) (entries : Entries) : Prop :=
  ∀ spelling ∈ field.spellings, ∀ other ∈ field.spellings,
    (entries.get? spelling).isSome → (entries.get? other).isSome → spelling = other

end NumberField

/-- What a number field of a sound is set to. -/
def number (sound : Sound) : NumberField → Option Binary64
  | .pitch => sound.pitch
  | .minPitch => sound.minPitch
  | .maxPitch => sound.maxPitch
  | .fadeStart => sound.fadeStart
  | .fadeWidth => sound.fadeWidth

/-- The names that a sound has anything under. -/
def fieldNames : List String :=
  ["name", "type", "filename", "filenames"] ++ NumberField.all.flatMap NumberField.spellings

/-- Entries describe a sound, all but its name. -/
structure DescribedBy (sound : Sound) (entries : Entries) : Prop where
  slot : entries.NamesSlot sound.slot
  files : entries.NamesFiles sound.filenames
  numbers : ∀ field : NumberField, field.SetTo entries (sound.number field)
  once : ∀ field : NumberField, field.SpelledOnce entries
  range : ∀ low high, sound.minPitch = some low → sound.maxPitch = some high → low ≤ high
  keys : ∀ entry ∈ entries, ∃ name ∈ fieldNames, entry.1 = .text name

/-- What holds of every sound, wherever it was read from. -/
structure WellFormed (sound : Sound) : Prop where
  files : sound.filenames ≠ []
  numbers : ∀ (field : NumberField) number, sound.number field = some number →
    number ≠ .nan ∧ field.Allows number
  range : ∀ low high, sound.minPitch = some low → sound.maxPitch = some high → low ≤ high

end Sound

/-- A slot is found by its name in whatever case, and by no other text. -/
theorem Slot.ofName?_eq_some_iff {name : String} {slot : Slot} :
    ofName? name = some slot ↔ lowercase name = lowercase slot.name := by
  -- No two slots have the same name in lower case, so the first one found is the only one.
  have every : ∀ slot : Slot, slot ∈ all := by
    intro slot
    cases slot <;> decide
  have apart : ∀ slot ∈ all, ∀ other ∈ all, lowercase slot.name = lowercase other.name →
      slot = other := by decide +kernel
  exact find?_lowercase_eq_some_iff every apart

/-- A slot is found by its exact name, and by no other text. -/
theorem Slot.ofExactName?_eq_some_iff {name : String} {slot : Slot} :
    ofExactName? name = some slot ↔ name = slot.name := by
  -- The slots have different names, so each of them finds itself.
  constructor
  · intro found
    -- The search stops at a slot of the name.
    have named : slot.name = name := by simpa using List.find?_some found
    exact named.symm
  · rintro rfl
    cases slot <;> rfl

/-- Items are taken from the tokens that hold some. -/
theorem Token.items?_eq_some_iff {token : Token} {items : List Token} :
    token.items? = some items ↔ token.Holds items := by
  -- Of all tokens lists, tuples and sets have items of their own.
  constructor
  · intro taken
    unfold items? at taken
    split at taken <;> cases taken
    · exact .list _
    · exact .tuple _
    · exact .set _
  · rintro (_ | _ | _) <;> rfl

/-- A text is read from the tokens that spell it. -/
theorem Token.toText_eq_ok_iff {token : Token} {text : String} :
    token.toText = .ok text ↔ token.Spells text := by
  -- A text is taken over, and bytes are decoded; nothing else is read as a text.
  constructor
  · intro read
    unfold toText at read
    split at read
    · cases read
      exact .text _
    · rename_i bytes
      cases encoded : textOfBytes? bytes with
      | none => simp [encoded] at read
      | some other =>
        simp only [encoded, Option.elim_some, Except.ok.injEq] at read
        exact .bytes (read ▸ encoded)
    · cases read
  · rintro (_ | encoded)
    · rfl
    · simp [toText, encoded]

namespace Sound

variable {location : Location} {entries : Entries}

/-- The slot is read from the text or the bytes that name it. -/
theorem slotField_eq_ok_iff {slot : Slot} :
    slotField location entries = .ok slot ↔ entries.NamesSlot slot := by
  -- A text names a slot in any case of letters, while bytes have to spell the name exactly.
  constructor
  · intro read
    unfold slotField at read
    dsimp only at read
    split at read
    · cases read
    · rename_i name written
      split at read <;> cases read
      rename_i named
      exact .text written (Slot.ofName?_eq_some_iff.mp named)
    · rename_i bytes found
      split at read <;> cases read
      rename_i named
      obtain ⟨name, encoded, exactly⟩ := Option.bind_eq_some_iff.mp named
      exact .bytes found (Slot.ofExactName?_eq_some_iff.mp exactly ▸ encoded)
    · cases read
  · intro names
    -- What is found under `type` decides how it is read.
    cases names with
    | text written same =>
      have found : entries.get? "type" = some (.scalar (.text _)) := written
      simp [slotField, found, Slot.ofName?_eq_some_iff.mpr same]
    | bytes found encoded =>
      simp [slotField, found, encoded, Slot.ofExactName?_eq_some_iff.mpr rfl]

/-- File names are read from the tokens that spell them. -/
theorem fileNames_eq_ok_iff {position : Nat} {items : List Token} {files : List String} :
    fileNames location position items = .ok files ↔ List.Forall₂ Token.Spells items files := by
  -- The position only counts the items, any of which may fail.
  induction items generalizing position files with
  | nil => simp [fileNames, eq_comm]
  | cons item rest ih =>
    have onward : ∀ {others}, fileNames location (position + 1) rest = .ok others ↔
        List.Forall₂ Token.Spells rest others := ih
    rw [fileNames, List.forall₂_cons_left_iff]
    simp only [← Token.toText_eq_ok_iff, ← onward]
    cases item.toText with
    | error fault => simp
    | ok file =>
      simp only [bind_eq_ok_iff, Except.ok.injEq]
      constructor
      · rintro ⟨others, read, same⟩
        exact ⟨file, others, rfl, read, same.symm⟩
      · rintro ⟨_, others, rfl, read, same⟩
        exact ⟨others, read, same.symm⟩

/-- The token of the files is the one under `filenames`, or a list of the one under `filename`. -/
theorem filesToken?_eq_some_iff {token : Token} :
    filesToken? entries = some token ↔ entries.get? "filenames" = some token ∨
      entries.get? "filenames" = none ∧
        ∃ file, entries.get? "filename" = some file ∧ token = .list [file] := by
  -- The one file counts only where there is no list.
  unfold filesToken?
  cases entries.get? "filenames" with
  | some given => simp
  | none => cases entries.get? "filename" <;> simp [eq_comm]

/-- The files are read where the mapping names some. -/
theorem filesField_eq_ok_iff {files : List String} :
    filesField location entries = .ok files ↔ entries.NamesFiles files := by
  -- The files are read from a token that holds items, at least one.
  have fromToken : filesField location entries = .ok files ↔ ∃ token items,
      filesToken? entries = some token ∧ token.Holds items ∧ items ≠ [] ∧
        List.Forall₂ Token.Spells items files := by
    simp only [← Token.items?_eq_some_iff]
    unfold filesField
    dsimp only
    split
    · rename_i none
      simp [none]
    · rename_i token found
      split
      · rename_i none
        simp [found, none]
      · rename_i empty
        simp [found, empty]
      · rename_i items some holds
        have notEmpty : items ≠ [] := by
          rintro rfl
          exact some rfl
        simp [found, holds, notEmpty, fileNames_eq_ok_iff]
  rw [fromToken]
  simp only [filesToken?_eq_some_iff]
  constructor
  · rintro ⟨token, items, found | ⟨none, file, found, rfl⟩, holds, some, each⟩
    · exact .many found holds some each
    · cases holds
      obtain _ | ⟨spells, _ | _⟩ := each
      exact .single none found spells
  · rintro (⟨found, holds, some, each⟩ | ⟨none, found, spells⟩)
    · exact ⟨_, _, .inl found, holds, some, each⟩
    · exact ⟨_, _, .inr ⟨none, _, found, rfl⟩, .list _, List.cons_ne_nil _ _,
        .cons spells .nil⟩

namespace NumberField

variable {field : NumberField}

/-- The bound of a field lets through what the field allows. -/
theorem bound_eq_ok_iff {given number : Binary64} :
    field.bound given = .ok number ↔ given = number ∧ field.Allows number := by
  -- Every field makes one check, against a bound of its own.
  have check : ∀ (allowed : Prop) [Decidable allowed] (fault : FieldFault),
      (if allowed then Except.ok given else .error fault) = .ok number ↔
        given = number ∧ allowed := by
    intro allowed _ fault
    by_cases passes : allowed <;> simp [passes]
  cases field with
  | pitch | minPitch | maxPitch =>
    rw [bound, check]
    refine and_congr_right ?_
    rintro rfl
    rfl
  | fadeStart | fadeWidth =>
    rw [bound, check]
    refine and_congr_right ?_
    rintro rfl
    rfl

/-- What a field allows is a number. -/
theorem Allows.ne_nan {number : Binary64} (allowed : field.Allows number) : number ≠ .nan := by
  -- Nothing is above or below what is no number.
  rintro rfl
  cases field <;> exact allowed

/-- The name that a field is looked up under is one of its names. -/
theorem spelling_mem (field : NumberField) (entries : Entries) :
    field.spelling entries ∈ field.spellings := by
  -- Either name is taken, depending on which one is given.
  unfold spelling
  split <;> simp [spellings]

/-- A field that is found under one of its names is found under the one that it is looked up by. -/
theorem isSome_spelling {spelling : String} (spelled : spelling ∈ field.spellings)
    (found : (entries.get? spelling).isSome) :
    (entries.get? (field.spelling entries)).isSome := by
  -- The first name is tried first, and the other one where that is missing.
  unfold NumberField.spelling
  split
  · assumption
  · rename_i noCamelCase
    obtain rfl | rfl : spelling = field.camelCase ∨ spelling = field.snakeCase := by
      simpa [spellings] using spelled
    · exact absurd found noCamelCase
    · exact found

/-- A token is taken as a number of a field where it stands for one that the field allows. -/
theorem toNumber_bound_eq_ok_iff {token : Token} {number : Binary64} :
    token.toNumber.bind field.bound = .ok number ↔
      token.toNumber = .ok number ∧ field.Allows number := by
  -- The token is read as a number first, and then held against the bounds of the field.
  show (token.toNumber >>= field.bound) = .ok number ↔ _
  simp only [bind_eq_ok_iff, bound_eq_ok_iff]
  constructor
  · rintro ⟨given, reads, rfl, allowed⟩
    exact ⟨reads, allowed⟩
  · rintro ⟨reads, allowed⟩
    exact ⟨number, reads, rfl, allowed⟩

/-- A number is read where the mapping sets the field, under one name at most. -/
theorem numberField_eq_ok_iff (once : field.SpelledOnce entries) {value : Option Binary64} :
    numberField location entries field = .ok value ↔ field.SetTo entries value := by
  -- A field that is found at all is found under the name that it is looked up by.
  have looked : ∀ {spelling token}, spelling ∈ field.spellings →
      entries.get? spelling = some token →
      entries.get? (field.spelling entries) = some token := by
    intro spelling token spelled found
    have there : (entries.get? spelling).isSome := by rw [found]; rfl
    rw [← once _ spelled _ (field.spelling_mem entries) there (isSome_spelling spelled there)]
    exact found
  constructor
  · intro read
    unfold numberField at read
    dsimp only at read
    split at read
    · rename_i null
      cases read
      obtain none | null := Entries.getD_eq_null_iff.mp null
      · refine .missing fun spelling spelled => ?_
        cases found : entries.get? spelling with
        | none => rfl
        | some token => cases none.symm.trans (looked spelled found)
      · exact .null (field.spelling_mem entries) null
    · rename_i notNull
      split at read <;> cases read
      rename_i number taken
      obtain ⟨reads, allowed⟩ := toNumber_bound_eq_ok_iff.mp taken
      have found := (Entries.getD_eq_iff _ notNull).mp rfl
      exact .number (field.spelling_mem entries) found reads allowed
  · intro set
    unfold numberField
    dsimp only
    cases set with
    | missing unset =>
      rw [Entries.getD_eq_null_iff.mpr (.inl (unset _ (field.spelling_mem entries)))]
    | null spelled null => rw [Entries.getD_eq_null_iff.mpr (.inr (looked spelled null))]
    | @number _ token number spelled found reads allowed =>
      -- Null stands for no number, so it is not what is found.
      have notNull : token ≠ .scalar .null := by
        rintro rfl
        cases reads
      rw [(Entries.getD_eq_iff token notNull).mpr (looked spelled found)]
      split
      · exact absurd rfl notNull
      · rw [toNumber_bound_eq_ok_iff.mpr ⟨reads, allowed⟩]

end NumberField

namespace NumberField

/-- Every number field is among all of them. -/
theorem mem_all (field : NumberField) : field ∈ all := by
  -- Each field stands in the list.
  cases field <;> decide

/-- No two number fields have a name in common. -/
theorem eq_of_mem_spellings {field other : NumberField} {name : String}
    (spelled : name ∈ field.spellings) (otherwise : name ∈ other.spellings) : field = other := by
  -- The names of all fields are compared with each other.
  have apart : ∀ field ∈ all, ∀ other ∈ all, ∀ name ∈ field.spellings,
      name ∈ other.spellings → field = other := by decide +kernel
  exact apart field field.mem_all other other.mem_all name spelled otherwise

end NumberField

/-- The keys of a mapping pass the check where they are texts that are known. -/
theorem checkKeys_eq_ok_iff {known : List String} :
    checkKeys location known entries = .ok () ↔
      ∀ entry ∈ entries, ∃ name ∈ known, entry.1 = .text name := by
  -- By induction on the entries, whose keys are checked in their order.
  induction entries with
  | nil => simp [checkKeys]
  | cons entry rest ih =>
    obtain ⟨key, token⟩ := entry
    rw [List.forall_mem_cons, ← ih]
    cases key with
    | text name =>
      rw [checkKeys]
      by_cases listed : name ∈ known <;> simp [listed]
    | _ => simp [checkKeys]

/-- The names of a sound's fields are whole texts. -/
theorem isWellFormed_of_mem_fieldNames : ∀ name ∈ fieldNames, isWellFormed name := by
  -- The names are checked one by one.
  decide +kernel

/-- Keys that are names of a sound's fields pass the check of their texts. -/
theorem checkTexts_eq_ok (keys : ∀ entry ∈ entries, ∃ name ∈ fieldNames, entry.1 = .text name) :
    checkTexts location entries = .ok () := by
  -- Every key is one of the names, so none has half of a pair in it.
  unfold checkTexts
  rw [if_neg]
  rw [Bool.not_eq_true, List.any_eq_false]
  intro entry member
  obtain ⟨name, named, key⟩ := keys entry member
  simp [key, isWellFormed_of_mem_fieldNames name named]

/-- A name that stands for a field in some entries is one of the names of a sound's fields. -/
theorem mem_fieldNames {name : String} (stands : name ∈ fieldKeys entries) : name ∈ fieldNames := by
  -- A plain field goes by its one name, and a number field by one of its two.
  obtain plain | numeric := List.mem_append.mp stands
  · exact List.mem_append_left _ plain
  · obtain ⟨field, among, rfl⟩ := List.mem_map.mp numeric
    exact List.mem_append_right _
      (List.mem_flatMap.mpr ⟨field, among, field.spelling_mem entries⟩)

/-- Of the names of a number field only the one that it is looked up by stands for it. -/
theorem mem_fieldKeys_iff {field : NumberField} {name : String} (spelled : name ∈ field.spellings) :
    name ∈ fieldKeys entries ↔ name = field.spelling entries := by
  -- A name of a number field belongs to that field alone, which has one name in use.
  have apart : ∀ field ∈ NumberField.all, ∀ name ∈ field.spellings,
      name ∉ ["name", "type", "filename", "filenames"] := by decide +kernel
  -- No plain field has the name, and no other number field has it.
  rw [fieldKeys, List.mem_append, or_iff_right (apart field field.mem_all name spelled),
    List.mem_map]
  constructor
  · rintro ⟨other, _, rfl⟩
    rw [NumberField.eq_of_mem_spellings spelled (other.spelling_mem entries)]
  · rintro rfl
    exact ⟨field, field.mem_all, rfl⟩

/-- Where each number field has one name at most, every name of a field that is a key stands for it. -/
theorem mem_fieldKeys_of_once (once : ∀ field : NumberField, field.SpelledOnce entries) :
    ∀ entry ∈ entries, ∀ name ∈ fieldNames, entry.1 = .text name → name ∈ fieldKeys entries := by
  -- A plain name always stands for its field, and for a number field the one in use does.
  intro entry member name among key
  obtain plain | numeric := List.mem_append.mp among
  · exact List.mem_append_left _ plain
  · -- A name of a number field that is given is the one that the field is looked up by.
    obtain ⟨field, _, spelled⟩ := List.mem_flatMap.mp numeric
    have given := Entries.isSome_get?_iff.mpr ⟨entry, member, key⟩
    rw [mem_fieldKeys_iff spelled]
    exact once field _ spelled _ (field.spelling_mem entries) given
      (NumberField.isSome_spelling spelled given)

/-- The keys stand for fields where they are names of a sound's fields, one at most for each. -/
theorem keys_stand_iff :
    (∀ entry ∈ entries, ∃ name ∈ fieldKeys entries, entry.1 = .text name) ↔
      (∀ field : NumberField, field.SpelledOnce entries) ∧
        ∀ entry ∈ entries, ∃ name ∈ fieldNames, entry.1 = .text name := by
  -- The names that stand for fields are all names but those of number fields that are not in use.
  constructor
  · intro stand
    constructor
    · -- Every name of the field that is given is the one that it is looked up by.
      have looked : ∀ field : NumberField, ∀ name ∈ field.spellings,
          (entries.get? name).isSome → name = field.spelling entries := by
        intro field name spelled given
        obtain ⟨entry, member, key⟩ := Entries.isSome_get?_iff.mp given
        obtain ⟨other, stands, same⟩ := stand entry member
        cases key.symm.trans same
        exact (mem_fieldKeys_iff spelled).mp stands
      intro field name spelled other otherwise given again
      rw [looked field name spelled given, looked field other otherwise again]
    · intro entry member
      obtain ⟨name, stands, key⟩ := stand entry member
      exact ⟨name, mem_fieldNames stands, key⟩
  · rintro ⟨once, named⟩ entry member
    obtain ⟨name, among, key⟩ := named entry member
    exact ⟨name, mem_fieldKeys_of_once once entry member name among key, key⟩

/-- Pitches pass the check where the highest is not below the lowest. -/
theorem checkPitchRange_eq_ok_iff {sound given : Sound} :
    checkPitchRange location given = .ok sound ↔ sound = given ∧
      ∀ low high, given.minPitch = some low → given.maxPitch = some high → ¬ high < low := by
  -- Two pitches that are both given are compared, and anything else passes.
  constructor
  · intro checked
    refine ⟨eq_of_checkPitchRange checked, fun low high lowest highest below => ?_⟩
    simp [checkPitchRange, lowest, highest, below] at checked
  · rintro ⟨rfl, range⟩
    unfold checkPitchRange
    split
    · rename_i low high lowest highest
      rw [if_neg (range low high lowest highest)]
    · rfl

/-- A field that is set is set to a number that it allows. -/
theorem NumberField.SetTo.allows {field : NumberField} {number : Binary64}
    (set : field.SetTo entries (some number)) : field.Allows number := by
  -- Nothing but an allowed number is what a field is set to.
  cases set with
  | number _ _ _ allowed => exact allowed

/-- Pitches that are set are numbers, so the lowest is at or below the highest or above it. -/
theorem range_iff {sound : Sound}
    (numbers : ∀ field : NumberField, field.SetTo entries (sound.number field)) :
    (∀ low high, sound.minPitch = some low → sound.maxPitch = some high → ¬ high < low) ↔
      ∀ low high, sound.minPitch = some low → sound.maxPitch = some high → low ≤ high := by
  -- No pitch that is set is undefined, so not to be below is to be at or above.
  have isNumber : ∀ (field : NumberField) number, sound.number field = some number →
      number ≠ .nan :=
    fun field number is => (is ▸ numbers field).allows.ne_nan
  refine forall₂_congr fun low high => forall₂_congr fun lowest highest => ?_
  rw [← Binary64.not_le_iff (isNumber .minPitch low lowest) (isNumber .maxPitch high highest),
    not_not]

/-- A sound is read from a mapping where the entries describe it, whatever they say of its name. -/
theorem ofToken_mapping_eq_ok_iff {name : String} {sound : Sound} :
    ofToken location name (.mapping entries) = .ok sound ↔
      sound.name = name ∧ sound.DescribedBy entries := by
  -- The fields are read in turn, then the keys are checked, and last the pitches together.
  simp only [ofToken, bind_eq_ok_iff, slotField_eq_ok_iff, filesField_eq_ok_iff,
    checkPitchRange_eq_ok_iff]
  constructor
  · rintro ⟨_, _, slot, slotted, files, named, pitch, readPitch, minPitch, readMinPitch, maxPitch,
      readMaxPitch, fadeStart, readFadeStart, fadeWidth, readFadeWidth, _, known, rfl, range⟩
    obtain ⟨once, keys⟩ := keys_stand_iff.mp (checkKeys_eq_ok_iff.mp known)
    have set : ∀ {field : NumberField} {value}, numberField location entries field = .ok value →
        field.SetTo entries value :=
      fun read => (NumberField.numberField_eq_ok_iff (once _)).mp read
    have numbers : ∀ field : NumberField, field.SetTo entries (number
        ⟨name, slot, files, pitch, minPitch, maxPitch, fadeStart, fadeWidth⟩ field) := by
      intro field
      cases field with
      | pitch => exact set readPitch
      | minPitch => exact set readMinPitch
      | maxPitch => exact set readMaxPitch
      | fadeStart => exact set readFadeStart
      | fadeWidth => exact set readFadeWidth
    exact ⟨rfl, slotted, named, numbers, once, (range_iff numbers).mp range, keys⟩
  · rintro ⟨rfl, described⟩
    have read : ∀ field : NumberField,
        numberField location entries field = .ok (sound.number field) :=
      fun field => (NumberField.numberField_eq_ok_iff (described.once field)).mpr
        (described.numbers field)
    have known : checkKeys location (fieldKeys entries) entries = .ok () :=
      checkKeys_eq_ok_iff.mpr (keys_stand_iff.mpr ⟨described.once, described.keys⟩)
    exact ⟨_, checkTexts_eq_ok described.keys, _, described.slot, _, described.files,
      _, read .pitch, _, read .minPitch, _, read .maxPitch, _, read .fadeStart, _, read .fadeWidth,
      _, known, rfl, (range_iff described.numbers).mpr described.range⟩

/-- A sound that entries describe is well formed. -/
theorem DescribedBy.wellFormed {sound : Sound} (described : sound.DescribedBy entries) :
    sound.WellFormed where
  files := described.files.ne_nil
  numbers field number is := by
    -- What describes a sound sets each of its fields to something that the field allows.
    have allowed := (is ▸ described.numbers field).allows
    exact ⟨allowed.ne_nan, allowed⟩
  range := described.range

end Sound

/--
A sound is read from a mapping exactly where the entries describe it, under the name that is given.

Each sound of a registry that was built is well formed and has the name that it stands under.
-/
theorem Sound.read_exactly_as_described :
    (∀ (location : Location) (name : String) (entries : Entries) (sound : Sound),
      Sound.ofToken location name (.mapping entries) = .ok sound ↔
        sound.name = name ∧ sound.DescribedBy entries) ∧
    ∀ (rules sounds carTypes : Token) (registry : Registry),
      Registry.build rules sounds carTypes = .ok registry →
        ∀ (name : String) (sound : Sound), (name, sound) ∈ registry.sounds →
          sound.name = name ∧ sound.WellFormed := by
  -- The description was shown field by field, and a built registry has read each of its sounds.
  refine ⟨fun location name entries sound => ofToken_mapping_eq_ok_iff, ?_⟩
  intro rules sounds carTypes registry built name sound member
  obtain ⟨_, reads, _⟩ := Registry.build_eq_ok_iff.mp built
  obtain ⟨_, token, _, _, read⟩ := reads.entry_of_mem member
  -- Only mappings are read as sounds.
  cases token with
  | mapping entries =>
    obtain ⟨named, described⟩ := ofToken_mapping_eq_ok_iff.mp read
    exact ⟨named, described.wellFormed⟩
  | _ => cases read

/-- The one sound of a registry is well formed and has the name that it stands under. -/
theorem Sound.horn_is_well_formed :
    let horn : Sound := ⟨"horn", .hornHit, ["a.ogg"], none, none, none, none, none⟩
    ∃ rules sounds registry, Registry.build rules sounds .null = .ok registry ∧
      ("horn", horn) ∈ registry.sounds ∧ horn.name = "horn" ∧ horn.WellFormed := by
  -- The horn is read from the sounds of a registry that was built.
  intro horn
  obtain ⟨_, wellFormed⟩ := Sound.read_exactly_as_described
  have member : ("horn", horn) ∈ [("horn", horn)] := List.mem_singleton.mpr rfl
  exact ⟨_, _, _, Registry.build_horns, member,
    wellFormed _ _ _ _ Registry.build_horns "horn" horn member⟩

/-- Files are named by texts alone: those in a list, or the one text where there is no list. -/
def Entries.ListsFiles (entries : Entries) : Prop :=
  (∃ items, items ≠ [] ∧ entries.get? "filenames" = some (.list items) ∧
    ∀ item ∈ items, ∃ text, item = .text text) ∨
  (entries.get? "filenames" = none ∧ ∃ text, entries.Says "filename" text)

/-- Files are also taken from a tuple and from a set, a file from bytes that encode its name, and a slot
from bytes that encode the name of the slot. -/
theorem Sound.bell_beside_lists_and_texts :
    let bell (name : String) (files : Token) : Entries :=
      [(.text "type", .text "Bell"), (.text name, files)]
    let tuple : Entries := bell "filenames" (.tuple [.text "a.ogg"])
    let set : Entries := bell "filenames" (.set [.text "a.ogg"])
    let bytes : Entries := bell "filename" (.scalar (.bytes [97, 46, 111, 103, 103]))
    let encoded : Entries :=
      [(.text "type", .scalar (.bytes [66, 101, 108, 108])), (.text "filename", .text "a.ogg")]
    let sound : Sound := ⟨"bell", .bell, ["a.ogg"], none, none, none, none, none⟩
    (Sound.ofToken (.start "sounds") "bell" (.mapping tuple) = .ok sound ∧ ¬ tuple.ListsFiles) ∧
    (Sound.ofToken (.start "sounds") "bell" (.mapping set) = .ok sound ∧ ¬ set.ListsFiles) ∧
    (Sound.ofToken (.start "sounds") "bell" (.mapping bytes) = .ok sound ∧
      ¬ bytes.ListsFiles) ∧
    Sound.ofToken (.start "sounds") "bell" (.mapping encoded) = .ok sound ∧
      ¬ ∃ name, encoded.Says "type" name := by
  -- Each mapping is read, and what stands in it is no list and no text.
  refine ⟨⟨by decide +kernel, ?_⟩, ⟨by decide +kernel, ?_⟩, ⟨by decide +kernel, ?_⟩,
    by decide +kernel, ?_⟩
  all_goals simp [Entries.ListsFiles, Entries.get?, Entries.Says]

end LocoSounds
