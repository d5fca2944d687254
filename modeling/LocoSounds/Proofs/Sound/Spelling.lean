import LocoSounds.Proofs.Rule.Edits
import LocoSounds.Proofs.Sound.Grammar

/-! Mappings that give the same fields of a sound: the order of keys is not seen by the reader, and how
a field is spelled is seen in the location of its fault alone. -/

namespace LocoSounds

namespace Sound

/-- One edit of a sound's mapping. -/
inductive Edit : Entries → Entries → Prop where
  /-- The keys come in another order. -/
  | order {entries others : Entries} (perm : entries.Perm others) : Edit entries others
  /-- A number field goes by the other one of its names. -/
  | spelling {before after : Entries} {field : NumberField} {name other : String} {token : Token}
      (spelled : name ∈ field.spellings) (otherwise : other ∈ field.spellings) :
      Edit (before ++ (.text name, token) :: after) (before ++ (.text other, token) :: after)

/-- A key with the names of number fields in camel case. -/
def canonicalKey (key : Scalar) : Scalar :=
  match NumberField.all.find? (key = .text ·.snakeCase) with
  | some field => .text field.camelCase
  | none => key

/-- Entries with the names of number fields in camel case. -/
def canonical (entries : Entries) : Entries :=
  entries.map fun entry => (canonicalKey entry.1, entry.2)

/-- The entries whose keys are no names of fields. -/
def strangers (entries : Entries) : Entries :=
  entries.filter fun entry => ∀ name ∈ fieldNames, entry.1 ≠ .text name

variable {entries others : Entries} {key : Scalar} {field : NumberField} {name : String}

/-- A name of a field becomes its name in camel case. -/
theorem canonicalKey_of_spelling (spelled : name ∈ field.spellings) :
    canonicalKey (.text name) = .text field.camelCase := by
  -- The names of all fields are gone through.
  have each : ∀ field ∈ NumberField.all, ∀ name ∈ field.spellings,
      canonicalKey (.text name) = .text field.camelCase := by decide +kernel
  exact each field field.mem_all name spelled

/-- A key that is no name of a number field stays as it is. -/
theorem canonicalKey_of_plain (plain : ∀ field : NumberField, ∀ name ∈ field.spellings,
    key ≠ .text name) : canonicalKey key = key := by
  -- The field whose other name the key is gets looked for, and there is none.
  have none : NumberField.all.find? (key = .text ·.snakeCase) = none :=
    List.find?_eq_none.mpr fun field _ => by
      simpa using plain field field.snakeCase (by simp [NumberField.spellings])
  rw [canonicalKey, none]

/-- A key becomes the camel case of a field where it is one of the names of the field. -/
theorem canonicalKey_eq_camelCase_iff :
    canonicalKey key = .text field.camelCase ↔ ∃ name ∈ field.spellings, key = .text name := by
  -- A key that was changed is a name of one field, and a key that was kept is its camel case.
  constructor
  · intro same
    by_cases spelled : ∃ other : NumberField, ∃ name ∈ other.spellings, key = .text name
    · obtain ⟨other, name, among, rfl⟩ := spelled
      rw [canonicalKey_of_spelling among, Scalar.text.injEq] at same
      -- Both fields have the same name in camel case, so they are one.
      have one : other = field :=
        NumberField.eq_of_mem_spellings (.head _) (same ▸ List.mem_cons_self)
      exact ⟨name, one ▸ among, rfl⟩
    · rw [canonicalKey_of_plain fun other name among is => spelled ⟨other, name, among, is⟩] at same
      exact ⟨_, .head _, same⟩
  · rintro ⟨name, spelled, rfl⟩
    exact canonicalKey_of_spelling spelled

/-- A text that is no name of a number field is what that very text becomes, and nothing else. -/
theorem canonicalKey_eq_text_iff (plain : ∀ field : NumberField, name ∉ field.spellings) :
    canonicalKey key = .text name ↔ key = .text name := by
  -- No key is changed into the text, as camel case names belong to number fields.
  by_cases spelled : ∃ field : NumberField, ∃ other ∈ field.spellings, key = .text other
  · obtain ⟨field, other, among, rfl⟩ := spelled
    rw [canonicalKey_of_spelling among]
    simp only [Scalar.text.injEq]
    constructor
    · rintro rfl
      exact absurd (.head _) (plain field)
    · rintro rfl
      exact absurd among (plain field)
  · rw [canonicalKey_of_plain fun field other among is => spelled ⟨field, other, among, is⟩]

/-- A text is the same key as itself and no other one. -/
theorem sameKey_text_iff {text : String} : key.sameKey (.text text) ↔ key = .text text := by
  -- A key that compares equal to a text is a text, and texts are compared by their characters.
  rw [Scalar.sameKey_iff]
  constructor
  · rintro ⟨_, is, ⟨⟩⟩
    -- Only texts are told apart by a text.
    unfold Scalar.identity? at is
    split at is <;> simp_all
    rename_i value _
    cases found : value.integer? <;> simp [found] at is
  · rintro rfl
    exact ⟨_, rfl, rfl⟩

/-- A text becomes a text. -/
theorem exists_canonicalKey_text (text : String) :
    ∃ other, canonicalKey (.text text) = .text other := by
  -- A name of a number field becomes its camel case, and any other text stays.
  by_cases spelled : ∃ field : NumberField, text ∈ field.spellings
  · obtain ⟨field, among⟩ := spelled
    exact ⟨_, canonicalKey_of_spelling among⟩
  · refine ⟨text, canonicalKey_of_plain fun field name among is => spelled ⟨field, ?_⟩⟩
    cases is
    exact among

/-- Keys of one entry become keys of one entry. -/
theorem sameKey_canonicalKey {other : Scalar} (same : key.sameKey other) :
    (canonicalKey key).sameKey (canonicalKey other) := by
  -- Equal keys are the same text, which is changed once, or neither is changed.
  by_cases texts : ∃ text, other = .text text
  · obtain ⟨text, rfl⟩ := texts
    obtain ⟨_, is⟩ := exists_canonicalKey_text text
    rw [sameKey_text_iff.mp same, is]
    exact sameKey_text_iff.mpr rfl
  · -- No number field goes by a key that is no text, so both stay as they are.
    have noText : ∀ text, key ≠ .text text := by
      rintro text rfl
      rw [Scalar.sameKey_comm] at same
      exact texts ⟨text, sameKey_text_iff.mp same⟩
    rw [canonicalKey_of_plain fun _ name _ => noText name,
      canonicalKey_of_plain fun _ name _ is => texts ⟨name, is⟩]
    exact same

/-- Entries stay distinct with their fields spelled as they were. -/
theorem distinct_of_canonical (distinct : (canonical entries).Distinct) : entries.Distinct :=
  (List.pairwise_map.mp distinct).imp fun apart same => apart (sameKey_canonicalKey same)

/-- Entries that are distinct in camel case have each number field under one name at most. -/
theorem spelledOnce_of_canonical (distinct : (canonical entries).Distinct) (field : NumberField) :
    field.SpelledOnce entries := by
  -- Two names of one field both become its camel case, so only one of them can be a key.
  intro name spelled other otherwise given again
  obtain ⟨entry, member, key⟩ := Entries.isSome_get?_iff.mp given
  obtain ⟨twin, beside, twinKey⟩ := Entries.isSome_get?_iff.mp again
  by_contra different
  -- Two entries of one field would have the same key in camel case.
  have two : entry ≠ twin := by
    rintro rfl
    exact different (Scalar.text.inj (key.symm.trans twinKey))
  have symm : Std.Symm fun entry other : Scalar × Token =>
      ¬ (canonicalKey entry.1).sameKey (canonicalKey other.1) :=
    ⟨fun _ _ apart => by rwa [Scalar.sameKey_comm]⟩
  have apart : ¬ (canonicalKey entry.1).sameKey (canonicalKey twin.1) :=
    (List.pairwise_map.mp distinct).forall member beside two
  rw [key, twinKey, canonicalKey_of_spelling spelled, canonicalKey_of_spelling otherwise] at apart
  exact apart (sameKey_text_iff.mpr rfl)

/-- Under any other name the same is found. -/
theorem get?_canonical_of_plain (plain : ∀ field : NumberField, name ∉ field.spellings)
    (entries : Entries) : (canonical entries).get? name = entries.get? name := by
  -- By induction on the entries; no change of a key leads to the name or away from it.
  induction entries with
  | nil => rfl
  | cons entry rest ih =>
    obtain ⟨key, token⟩ := entry
    have rest_eq : canonical ((key, token) :: rest) = (canonicalKey key, token) :: canonical rest := rfl
    rw [rest_eq, Entries.get?_cons, Entries.get?_cons, ih]
    simp only [canonicalKey_eq_text_iff plain]

/-- Under a field in camel case is found what is found under the name that the field is looked up by. -/
theorem get?_canonical_camelCase (distinct : (canonical entries).Distinct) (field : NumberField) :
    (canonical entries).get? field.camelCase = entries.get? (field.spelling entries) := by
  -- Distinct keys stand for one entry each, so what is found is what is a member.
  ext token
  rw [Entries.get?_eq_some_iff_mem distinct,
    Entries.get?_eq_some_iff_mem (distinct_of_canonical distinct), canonical, List.mem_map]
  constructor
  · rintro ⟨⟨key, _⟩, member, is⟩
    obtain ⟨camel, rfl⟩ := Prod.mk.inj is
    obtain ⟨name, spelled, rfl⟩ := canonicalKey_eq_camelCase_iff.mp camel
    -- The name that stands there is the one that the field is looked up by.
    have given : (entries.get? name).isSome := Entries.isSome_get?_iff.mpr ⟨_, member, rfl⟩
    rwa [← spelledOnce_of_canonical distinct field name spelled _ (field.spelling_mem entries) given
      (NumberField.isSome_spelling spelled given)]
  · intro member
    exact ⟨_, member, Prod.ext (canonicalKey_of_spelling (field.spelling_mem entries)) rfl⟩

/-- The names of number fields are among those of fields. -/
theorem mem_fieldNames_of_spelling (spelled : name ∈ field.spellings) : name ∈ fieldNames :=
  List.mem_append_right _ (List.mem_flatMap.mpr ⟨field, field.mem_all, spelled⟩)

/-- The entries that stand for no field are those whose keys are no names of fields. -/
theorem mem_strangers_iff {entry : Scalar × Token} :
    entry ∈ strangers entries ↔ entry ∈ entries ∧ ∀ name ∈ fieldNames, entry.1 ≠ .text name := by
  -- The entries are filtered by this very condition.
  simp [strangers]

/-- An entry under the name of a field is passed over. -/
theorem strangers_cons_of_field {token : Token} {rest : Entries} (field : name ∈ fieldNames) :
    strangers ((.text name, token) :: rest) = strangers rest :=
  List.filter_cons_of_neg (by simp [field])

/-- An entry under any other key is kept. -/
theorem strangers_cons_of_stranger {token : Token} {rest : Entries}
    (stranger : ∀ name ∈ fieldNames, key ≠ .text name) :
    strangers ((key, token) :: rest) = (key, token) :: strangers rest :=
  List.filter_cons_of_pos (decide_eq_true stranger)

/-- In camel case the same entries stand for no field. -/
theorem strangers_canonical (entries : Entries) :
    strangers (canonical entries) = strangers entries := by
  -- By induction on the entries; names of fields are changed into such, and other keys stay.
  have renamed : ∀ name ∈ fieldNames, ∃ other ∈ fieldNames,
      canonicalKey (.text name) = .text other := by decide +kernel
  induction entries with
  | nil => rfl
  | cons entry rest ih =>
    obtain ⟨key, token⟩ := entry
    have first : canonical ((key, token) :: rest) = (canonicalKey key, token) :: canonical rest := rfl
    rw [first]
    by_cases stranger : ∀ name ∈ fieldNames, key ≠ .text name
    · have kept : canonicalKey key = key :=
        canonicalKey_of_plain fun _ name among => stranger name (mem_fieldNames_of_spelling among)
      rw [kept, strangers_cons_of_stranger stranger, strangers_cons_of_stranger stranger, ih]
    · -- The name of a field becomes the name of a field.
      push Not at stranger
      obtain ⟨name, field, rfl⟩ := stranger
      obtain ⟨other, again, is⟩ := renamed name field
      rw [is, strangers_cons_of_field field, strangers_cons_of_field again, ih]

/-- An edit changes nothing in camel case but the order. -/
theorem Edit.canonical_perm (edit : Edit entries others) :
    (canonical entries).Perm (canonical others) := by
  -- The two kinds of edits one by one.
  cases edit with
  | order perm => exact perm.map _
  | spelling spelled otherwise =>
    simp only [canonical, List.map_append, List.map_cons, canonicalKey_of_spelling spelled,
      canonicalKey_of_spelling otherwise]
    exact .refl _

/-- Any number of edits, made or taken back, change nothing in camel case but the order. -/
theorem canonical_perm (edits : Relation.EqvGen Edit entries others) :
    (canonical entries).Perm (canonical others) := by
  -- By induction on how the edits are put together.
  induction edits with
  | rel _ _ edit => exact edit.canonical_perm
  | refl => exact .refl _
  | symm _ _ _ ih => exact ih.symm
  | trans _ _ _ _ _ first second => exact first.trans second

/-- Two mappings have the same fields: the same under each name of its own, the same number fields
under whichever name, and the same entries that stand for no field. -/
structure SameFields (entries others : Entries) : Prop where
  plain : ∀ name, (∀ field : NumberField, name ∉ field.spellings) →
    entries.get? name = others.get? name
  numbers : ∀ field : NumberField,
    entries.get? (field.spelling entries) = others.get? (field.spelling others)
  strangers : strangers entries = strangers others
  once : ∀ field : NumberField, field.SpelledOnce entries
  onceOther : ∀ field : NumberField, field.SpelledOnce others

/-- Lists of at most one item that have the same items are the same. -/
theorem eq_of_perm_of_length_le_one {α : Type} {items listed : List α} (perm : items.Perm listed)
    (few : items.length ≤ 1) : items = listed := by
  -- A list without items and one with a single item have one order each.
  match items, few with
  | [], _ => exact perm.nil_eq
  | [item], _ => exact (List.singleton_perm.mp perm)

/-- Mappings that are the same in camel case but for the order have the same fields, where at most one
entry stands for none. -/
theorem sameFields_of_perm (perm : (canonical entries).Perm (canonical others))
    (distinct : (canonical entries).Distinct) (few : (strangers entries).length ≤ 1) :
    SameFields entries others := by
  -- All that a sound is read from is found by names, except for the strangers.
  have distinctOther := distinct.of_perm perm
  have found : ∀ name, (canonical entries).get? name = (canonical others).get? name :=
    Entries.get?_eq_of_perm distinct perm
  refine ⟨fun name plain => ?_, fun field => ?_, ?_, spelledOnce_of_canonical distinct,
    spelledOnce_of_canonical distinctOther⟩
  · rw [← get?_canonical_of_plain plain, found, get?_canonical_of_plain plain]
  · rw [← get?_canonical_camelCase distinct, found, get?_canonical_camelCase distinctOther]
  · -- The order of one entry at most is always the same.
    refine eq_of_perm_of_length_le_one ?_ few
    rw [← strangers_canonical entries, ← strangers_canonical others]
    exact perm.filter _

variable {location : Location}

/-- The text check looks at nothing but the entries that stand for no field. -/
theorem checkTexts_eq_strangers (location : Location) (entries : Entries) :
    checkTexts location entries = checkTexts location (strangers entries) := by
  -- Only keys that are no whole texts are looked for, and no name of a field is such.
  unfold checkTexts
  dsimp only
  congr 2
  rw [Bool.eq_iff_iff, List.any_eq_true, List.any_eq_true]
  constructor
  · rintro ⟨⟨key, token⟩, member, malformed⟩
    refine ⟨_, mem_strangers_iff.mpr ⟨member, ?_⟩, malformed⟩
    -- A key that is the name of a field is a whole text.
    rintro name named rfl
    simp [isWellFormed_of_mem_fieldNames name named] at malformed
  · rintro ⟨entry, member, malformed⟩
    exact ⟨entry, (mem_strangers_iff.mp member).1, malformed⟩

/-- The key check looks at nothing but the entries that stand for no field, where it knows the name of
a field wherever that is a key. -/
theorem checkKeys_eq_strangers {known : List String} (named : ∀ name ∈ known, name ∈ fieldNames)
    (fields : ∀ entry ∈ entries, ∀ name ∈ fieldNames, entry.1 = .text name → name ∈ known) :
    checkKeys location known entries = checkKeys location fieldNames (strangers entries) := by
  -- By induction on the entries; those that stand for fields pass, and the others are the
  -- strangers.
  induction entries with
  | nil => rfl
  | cons entry rest ih =>
    obtain ⟨key, token⟩ := entry
    obtain ⟨first, others⟩ := List.forall_mem_cons.mp fields
    by_cases stranger : ∀ name ∈ fieldNames, key ≠ .text name
    · -- Both checks stop here, at a key that stands for no field.
      rw [strangers_cons_of_stranger stranger]
      cases key with
      | text name =>
        have unknown : name ∉ fieldNames := fun field => stranger name field rfl
        have unnamed : name ∉ known := fun member => unknown (named name member)
        simp [checkKeys, unknown, unnamed]
      | _ => rfl
    · -- The name of a field passes the one check and is not there for the other.
      push Not at stranger
      obtain ⟨name, field, rfl⟩ := stranger
      rw [strangers_cons_of_field field, ← ih others, checkKeys,
        if_pos (List.contains_iff_mem.mpr (first name field rfl))]

/-- What a number field makes of the token under its name. -/
def NumberField.read (field : NumberField) : Token → Except FieldFault (Option Binary64)
  | .scalar .null => .ok none
  | token => (token.toNumber.bind field.bound).map some

/-- A number field is read from the token under the name that it is looked up by, which is where its
fault lies. -/
theorem numberField_eq (location : Location) (entries : Entries) (field : NumberField) :
    numberField location entries field =
      (field.read (entries.getD (field.spelling entries))).mapError
        (fieldError (location.key (field.spelling entries))) := by
  -- What is under the name is null, a token that is read, or one that is refused under the name.
  unfold numberField
  dsimp only
  generalize entries.getD (field.spelling entries) = token
  split
  · rfl
  · rename_i notNull
    rw [NumberField.read.eq_2 field token notNull]
    cases token.toNumber.bind field.bound <;> rfl

/-- Two results of reading are the same, or tell of one fault in one number field, each at the name
under which that field is there. -/
inductive AlikeBut {α : Type} (location : Location) (entries others : Entries) :
    Except ParseError α → Except ParseError α → Prop where
  | same (result : Except ParseError α) : AlikeBut location entries others result result
  | number (field : NumberField) {token : Token} {fault : FieldFault}
      (found : entries.get? (field.spelling entries) = some token)
      (again : others.get? (field.spelling others) = some token) :
      AlikeBut location entries others
        (.error (fieldError (location.key (field.spelling entries)) fault))
        (.error (fieldError (location.key (field.spelling others)) fault))

/-- What goes on from results that are alike gives results that are alike. -/
theorem AlikeBut.bind {α β : Type} {first second : Except ParseError α}
    {next later : α → Except ParseError β} (alike : AlikeBut location entries others first second)
    (onward : ∀ value, AlikeBut location entries others (next value) (later value)) :
    AlikeBut location entries others (first >>= next) (second >>= later) := by
  -- The first results are the same ones, or both are the fault of one number field.
  cases alike with
  | same =>
    cases first with
    | error error => exact .same _
    | ok value => exact onward value
  | number field found again => exact .number field found again

namespace SameFields

variable (same : SameFields entries others)

include same

/-- The slot is read alike. -/
theorem slotField_eq : slotField location entries = slotField location others := by
  -- The slot has one name, which belongs to no number field.
  have plain : ∀ field : NumberField, "type" ∉ field.spellings := by
    intro field
    cases field <;> decide
  unfold slotField
  rw [same.plain "type" plain]

/-- The files are read alike. -/
theorem filesField_eq : filesField location entries = filesField location others := by
  -- The files have two names, neither of which belongs to a number field.
  have list : ∀ field : NumberField, "filenames" ∉ field.spellings := by
    intro field
    cases field <;> decide
  have one : ∀ field : NumberField, "filename" ∉ field.spellings := by
    intro field
    cases field <;> decide
  unfold filesField filesToken?
  rw [same.plain "filenames" list, same.plain "filename" one]

/-- A number is read alike, but for the name that its fault is located by. -/
theorem numberField_alike (field : NumberField) :
    AlikeBut location entries others (numberField location entries field)
      (numberField location others field) := by
  -- The tokens are the same, so their reading gives the same number or the same fault.
  have token : entries.getD (field.spelling entries) = others.getD (field.spelling others) := by
    rw [Entries.getD, Entries.getD, same.numbers field]
  rw [numberField_eq, numberField_eq, ← token]
  cases read : field.read (entries.getD (field.spelling entries)) with
  | ok value => exact .same _
  | error fault =>
    -- What cannot be read is there, as nothing would have been read as null.
    have notNull : entries.getD (field.spelling entries) ≠ .scalar .null := by
      intro null
      rw [null] at read
      cases read
    have found := (Entries.getD_eq_iff _ notNull).mp rfl
    exact .number field found (same.numbers field ▸ found)

/-- The keys are checked alike. -/
theorem checkKeys_eq : checkKeys location (fieldKeys entries) entries =
    checkKeys location (fieldKeys others) others := by
  -- The keys that stand for fields pass on both sides, and the strangers are the same.
  rw [checkKeys_eq_strangers (fun _ => mem_fieldNames) (mem_fieldKeys_of_once same.once),
    checkKeys_eq_strangers (fun _ => mem_fieldNames) (mem_fieldKeys_of_once same.onceOther),
    same.strangers]

/-- A sound is read alike, but for the name that the fault of a number field is located by. -/
theorem ofToken_alike (name : String) :
    AlikeBut location entries others (ofToken location name (.mapping entries))
      (ofToken location name (.mapping others)) := by
  -- Each of the steps of the reading is alike, which is put together step by step.
  have texts : checkTexts location entries = checkTexts location others := by
    rw [checkTexts_eq_strangers, same.strangers, ← checkTexts_eq_strangers]
  -- The fields are read one after the other, and only the numbers have names of their own.
  rw [ofToken, ofToken, texts, same.slotField_eq, same.filesField_eq, same.checkKeys_eq]
  refine .bind (.same _) fun _ => .bind (.same _) fun slot => .bind (.same _) fun filenames => ?_
  refine .bind (same.numberField_alike _) fun pitch => ?_
  refine .bind (same.numberField_alike _) fun minPitch => ?_
  refine .bind (same.numberField_alike _) fun maxPitch => ?_
  refine .bind (same.numberField_alike _) fun fadeStart => ?_
  refine .bind (same.numberField_alike _) fun fadeWidth => ?_
  exact .same _

end SameFields

/-- A change of order alone leaves each number field under its name. -/
theorem spelling_eq_of_perm (distinct : entries.Distinct) (perm : entries.Perm others)
    (field : NumberField) : field.spelling entries = field.spelling others := by
  -- Which of the two names is in use depends on what is found under them.
  unfold NumberField.spelling
  rw [Entries.get?_eq_of_perm distinct perm]

/--
A sound is read the same after any number of edits of its mapping, made or taken back, which change
the order of keys and write number fields under their other names.

No key of the mapping is there twice, the two names of a field counting as one key, and one key at
most stands for no field. Then the same sound is read, or the same fault is reported at the same place.
The one thing that differs is the place of a fault in the value of a number field. It is told by the
name under which each mapping has the value.
So where nothing but the order is changed, the outcome is the very same.
-/
theorem ofToken_alike_of_edits (edits : Relation.EqvGen Edit entries others)
    (distinct : (canonical entries).Distinct) (few : (strangers entries).length ≤ 1)
    (location : Location) (name : String) :
    (ofToken location name (.mapping entries) = ofToken location name (.mapping others) ∨
      ∃ (field : NumberField) (token : Token) (fault : FieldFault),
        entries.get? (field.spelling entries) = some token ∧
        others.get? (field.spelling others) = some token ∧
        ofToken location name (.mapping entries) =
          .error (fieldError (location.key (field.spelling entries)) fault) ∧
        ofToken location name (.mapping others) =
          .error (fieldError (location.key (field.spelling others)) fault)) ∧
    (entries.Perm others →
      ofToken location name (.mapping entries) = ofToken location name (.mapping others)) := by
  -- Edits keep the fields that are found, and reading looks at nothing else.
  have same := sameFields_of_perm (canonical_perm edits) distinct few
  have alike : AlikeBut location entries others (ofToken location name (.mapping entries))
      (ofToken location name (.mapping others)) := same.ofToken_alike name
  generalize ofToken location name (.mapping entries) = result,
    ofToken location name (.mapping others) = other at alike ⊢
  cases alike with
  | same => exact ⟨.inl rfl, fun _ => rfl⟩
  | @number field token fault found again =>
    refine ⟨.inr ⟨field, token, fault, found, again, rfl, rfl⟩, fun perm => ?_⟩
    rw [spelling_eq_of_perm (distinct_of_canonical distinct) perm]

/-- A horn is read alike with its highest pitch first and under its other name. -/
theorem ofToken_respelled_horn :
    let type : Scalar × Token := (.text "type", .text "HornHit")
    let file : Scalar × Token := (.text "filename", .text "a.ogg")
    let pitch (name : String) : Scalar × Token := (.text name, .scalar (.int 2))
    let entries : Entries := [type, file, pitch "maxPitch"]
    let others : Entries := [pitch "max_pitch", type, file]
    Relation.EqvGen Edit entries others ∧ (canonical entries).Distinct ∧
      (strangers entries).length ≤ 1 ∧
      ofToken (.start "sounds") "horn" (.mapping entries) =
        ofToken (.start "sounds") "horn" (.mapping others) := by
  -- One edit for the name and one for the order lead from the one mapping to the other.
  intro type file pitch entries others
  have spelled : Edit entries [type, file, pitch "max_pitch"] :=
    @Edit.spelling [type, file] [] .maxPitch _ _ _ (by decide) (by decide)
  have ordered : Edit [type, file, pitch "max_pitch"] others :=
    .order (@List.perm_append_comm _ [type, file] [pitch "max_pitch"])
  have edits : Relation.EqvGen Edit entries others := .trans _ _ _ (.rel _ _ spelled) (.rel _ _ ordered)
  have distinct : (canonical entries).Distinct := by
    unfold Entries.Distinct
    decide +kernel
  have few : (strangers entries).length ≤ 1 := by decide +kernel
  refine ⟨edits, distinct, few, ?_⟩
  obtain ⟨same | ⟨field, _, _, _, _, fails, _⟩, _⟩ :=
    ofToken_alike_of_edits edits distinct few (.start "sounds") "horn"
  · exact same
  · -- Nothing is wrong with this horn.
    have fine : (ofToken (.start "sounds") "horn" (.mapping entries)).isOk := by decide +kernel
    rw [fails] at fine
    cases fine

/-- A pitch of zero is refused at the name that it is written under, so at another place under its
other name. -/
theorem ofToken_tells_spelling :
    let entries (name : String) : Entries :=
      [(.text "type", .text "HornHit"), (.text "filename", .text "a.ogg"),
        (.text name, .scalar (.int 0))]
    let fault (name : String) : ParseError :=
      fieldError ((Location.start "sounds.horn").key name) .notPositive
    Edit (entries "minPitch") (entries "min_pitch") ∧
      ofToken (.start "sounds.horn") "horn" (.mapping (entries "minPitch")) =
        .error (fault "minPitch") ∧
      ofToken (.start "sounds.horn") "horn" (.mapping (entries "min_pitch")) =
        .error (fault "min_pitch") ∧
      fault "minPitch" ≠ fault "min_pitch" := by
  -- The two faults are computed, and so are the places that they are told at.
  intro entries fault
  refine ⟨?_, by decide +kernel, by decide +kernel, by decide +kernel⟩
  exact @Edit.spelling [_, _] [] .minPitch _ _ _ (by decide) (by decide)

end Sound

end LocoSounds
