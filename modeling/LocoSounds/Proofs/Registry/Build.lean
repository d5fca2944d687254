import LocoSounds.Proofs.Registry.Resolution
import LocoSounds.Proofs.Token.Entries
import LocoSounds.Registry.Build
import Mathlib.Data.List.Perm.Basic

/-! Which sections build a registry, and which registry they build. -/

namespace LocoSounds

/-- The rule that a token under a name of the rules section stands for. -/
def Rule.ofEntry (name : String) (token : Token) : Except ParseError Rule :=
  Rule.ofToken ((Location.start "rules").key name) token

/-- The sound that a token under a name of the sounds section describes. -/
def Sound.ofEntry (name : String) (token : Token) : Except ParseError Sound :=
  Sound.ofToken ((Location.start "sounds").key name) name token

/-- The named values of a section, read from its entries one by one in the order written.
Each key is the text of a name, and an absent section holds nothing. -/
inductive Section.Reads {α : Type} (read : String → Token → Except ParseError α) :
    Token → List (String × α) → Prop where
  | absent : Reads read .null []
  | mapping {entries : Entries} {named : List (String × α)}
      (each : List.Forall₂ (fun entry value =>
        entry.1 = .text value.1 ∧ read value.1 entry.2 = .ok value.2) entries named) :
      Reads read (.mapping entries) named

/-- Keys of a mapping tell its entries apart. -/
def Entries.Distinct (entries : Entries) : Prop :=
  entries.Pairwise fun entry other => ¬ entry.1.sameKey other.1

/-- A section beside one with the same entries in another order, which its keys tell apart. -/
inductive Section.Reordered : Token → Token → Prop where
  | absent : Reordered .null .null
  | mapping {entries others : Entries} (distinct : entries.Distinct)
      (perm : entries.Perm others) : Reordered (.mapping entries) (.mapping others)

/-- Every name in some rules stands for a rule or a sound, every car type in them is one of those
listed but for the case of its letters, and no rule comes back to itself along references. -/
structure Coherent (rules : NamedRules) (sounds : List (String × Sound)) (carTypes : List String) :
    Prop where
  refs : ∀ entry ∈ rules, ∀ name, (Rule.ref name).PartOf entry.2 → name ∈ rules.map (·.1)
  sounds : ∀ entry ∈ rules, ∀ name, (Rule.sound name).PartOf entry.2 → name ∈ sounds.map (·.1)
  carTypes : ∀ entry ∈ rules, ∀ value inner, (Rule.when .carType value inner).PartOf entry.2 →
    ∃ known ∈ carTypes, lowercase value = lowercase known
  acyclic : rules.Acyclic

/-- The car types that a token lists, each in its written form. Null lists the default ones. -/
def Registry.listedCarTypes? (token : Token) : Option (List String) :=
  if token.isNull then some Car.defaultTypes
  else token.elements?.bind fun tokens => tokens.mapM Token.plain?

/-- An entry whose key is no text is not taken over, for its key if that can be written. -/
theorem Section.takeEntry_of_other (part : Section) {key : Scalar} (token : Token)
    (other : ∀ name, key ≠ .text name) :
    part.takeEntry (key, token) = match key.plain? with
      | some written => .error (.malformed (.nameNotText part key.typeName)
          ((Location.start part.name).key written))
      | none => .error .keyTooLong := by
  -- Only the key of a text is looked at in another way.
  cases key with
  | text name => exact absurd rfl (other name)
  | _ => rfl

/-- An entry is taken over where its key is the text of a name. -/
theorem Section.takeEntry_eq_ok_iff (part : Section) {entry : Scalar × Token}
    {named : String × Token} :
    part.takeEntry entry = .ok named ↔ entry = (.text named.1, named.2) := by
  -- A key that is no text gives an error, whether it can be written or not.
  obtain ⟨key, token⟩ := entry
  by_cases other : ∀ name, key ≠ .text name
  · rw [part.takeEntry_of_other token other]
    cases key.plain? <;> simp [other]
  · obtain ⟨name, rfl⟩ := not_forall_not.mp other
    simp [takeEntry, Prod.ext_iff, eq_comm]

/-- The entries of a mapping are taken over where each of its keys is the text of a name. -/
theorem Section.entries_mapping_eq_ok_iff (part : Section) {entries : Entries}
    {named : List (String × Token)} : part.entries (.mapping entries) = .ok named ↔
      List.Forall₂ (fun entry value => entry = (.text value.1, value.2)) entries named := by
  -- The entries are taken over one by one.
  rw [Section.entries, mapM_eq_ok_iff]
  simp only [takeEntry_eq_ok_iff]

/-- A value is read from an entry under the name of the entry. -/
theorem Section.readEntry_eq_ok_iff {α : Type} {read : String → Token → Except ParseError α}
    {entry : String × Token} {value : String × α} :
    (do let value ← read entry.1 entry.2; pure (entry.1, value)) = Except.ok value ↔
      entry.1 = value.1 ∧ read entry.1 entry.2 = .ok value.2 := by
  -- The name is carried over, only what stands under it is read.
  rw [bind_eq_ok_iff]
  constructor
  · rintro ⟨given, done, same⟩
    cases same
    exact ⟨rfl, done⟩
  · rintro ⟨same, done⟩
    exact ⟨value.2, done, by rw [same]; rfl⟩

/-- A section is read where each of its keys is a name and each of its values can be read. -/
theorem Section.entries_bind_mapM_eq_ok_iff {α : Type} (part : Section)
    (read : String → Token → Except ParseError α) {token : Token} {named : List (String × α)} :
    (part.entries token >>= fun entries => entries.mapM fun entry => do
      let value ← read entry.1 entry.2
      pure (entry.1, value)) = .ok named ↔ Section.Reads read token named := by
  -- The section is split into names and tokens first, and the two steps are joined entry by entry.
  constructor
  · intro done
    obtain ⟨entries, taken, each⟩ := bind_eq_ok_iff.mp done
    rw [mapM_eq_ok_iff] at each
    simp only [Section.readEntry_eq_ok_iff] at each
    -- Only an absent section and a mapping have entries.
    unfold Section.entries at taken
    split at taken
    · cases taken
      cases each
      exact .absent
    · rename_i raw
      have through := forall₂_through_iff.mp
        ⟨entries, part.entries_mapping_eq_ok_iff.mp taken, each⟩
      refine .mapping (through.imp ?_)
      rintro _ value ⟨named, rfl, same, done⟩
      exact ⟨by rw [same], same ▸ done⟩
    · cases taken
  · rintro (_ | ⟨each⟩)
    · rfl
    · -- Between the entries and what is read stand the entries with their names taken out.
      have through := each.imp fun entry value given =>
        (⟨(value.1, entry.2), by rw [← given.1], rfl, given.2⟩ :
          ∃ named : String × Token, entry = (.text named.1, named.2) ∧
            named.1 = value.1 ∧ read named.1 named.2 = .ok value.2)
      obtain ⟨entries, taken, each⟩ := forall₂_through_iff.mpr through
      refine bind_eq_ok_iff.mpr ⟨entries, part.entries_mapping_eq_ok_iff.mpr taken, ?_⟩
      rw [mapM_eq_ok_iff]
      simpa only [Section.readEntry_eq_ok_iff] using each

/-- What was read under a name of a section stands in the section under that name. -/
theorem Section.Reads.entry_of_mem {α : Type} {read : String → Token → Except ParseError α}
    {token : Token} {named : List (String × α)} {value : String × α}
    (reads : Section.Reads read token named) (member : value ∈ named) :
    ∃ entries inner, token = .mapping entries ∧ (.text value.1, inner) ∈ entries ∧
      read value.1 inner = .ok value.2 := by
  -- Each value stands beside the entry that it was read from.
  cases reads with
  | absent => cases member
  | mapping each =>
    obtain ⟨entry, written, named, done⟩ := forall_mem_of_forall₂
      (fun value => ∃ entry ∈ _, entry.1 = .text value.1 ∧ read value.1 entry.2 = .ok value.2) each
      (fun entry member value related => ⟨entry, member, related⟩) value member
    exact ⟨_, entry.2, rfl, named ▸ written, done⟩

/-- The check of its pitches gives back the sound itself. -/
theorem Sound.eq_of_checkPitchRange {location : Location} {given sound : Sound}
    (checked : checkPitchRange location given = .ok sound) : sound = given := by
  -- The check either fails or returns what it was given.
  unfold checkPitchRange at checked
  split at checked
  · split at checked <;> cases checked
    rfl
  · cases checked
    rfl

/-- A sound has the name that it was read under. -/
theorem Sound.name_of_ofEntry {name : String} {token : Token} {sound : Sound}
    (read : Sound.ofEntry name token = .ok sound) : sound.name = name := by
  -- Only a mapping is read, and its name is put in at the end.
  cases token with
  | mapping entries =>
    -- The fields are read one after the other, and only then is the sound put together.
    simp only [Sound.ofEntry, Sound.ofToken, bind_eq_ok_iff] at read
    obtain ⟨_, _, _, _, _, _, _, _, _, _, _, _, _, _, _, _, _, _, checked⟩ := read
    rw [eq_of_checkPitchRange checked]
  | _ => cases read

namespace Registry

/-- Rules are those of a section where they are read from its entries. -/
theorem ofSection_rules_eq_ok_iff {token : Token} {rules : NamedRules} :
    Rule.ofSection token = .ok rules ↔ Section.Reads Rule.ofEntry token rules :=
  Section.rules.entries_bind_mapM_eq_ok_iff Rule.ofEntry

/-- Sounds are those of a section where they are read from its entries. -/
theorem ofSection_sounds_eq_ok_iff {token : Token} {sounds : List (String × Sound)} :
    Sound.ofSection token = .ok sounds ↔ Section.Reads Sound.ofEntry token sounds :=
  Section.sounds.entries_bind_mapM_eq_ok_iff Sound.ofEntry

/-- The known car types are those listed, in lower case. -/
theorem readCarTypes_eq_ok_iff {token : Token} {carTypes : List String} :
    readCarTypes token = .ok carTypes ↔
      ∃ listed, listedCarTypes? token = some listed ∧ carTypes = listed.map lowercase := by
  -- An absent list stands for the listed defaults; any other has to consist of plain texts.
  unfold readCarTypes listedCarTypes?
  split
  · simp [defaultCarTypes, eq_comm]
  · cases token.elements? with
    | none => simp
    | some tokens => cases written : tokens.mapM Token.plain? <;> simp [carTypesOf?, written, eq_comm]

/-- A registry is built where it is read from the sections and the car types, and resolves. -/
theorem build_eq_ok_iff {rules sounds carTypes : Token} {registry : Registry} :
    build rules sounds carTypes = .ok registry ↔
      Section.Reads Rule.ofEntry rules registry.rules ∧
      Section.Reads Sound.ofEntry sounds registry.sounds ∧
      (∃ listed, listedCarTypes? carTypes = some listed ∧
        registry.carTypes = listed.map lowercase) ∧
      registry.resolve = .ok () := by
  -- Three steps follow one another: the sections are parsed, the types are read, and all resolves.
  simp only [← ofSection_rules_eq_ok_iff, ← ofSection_sounds_eq_ok_iff, ← readCarTypes_eq_ok_iff]
  constructor
  · intro built
    -- Each stage of building lets the next one go on only where it succeeded itself.
    obtain ⟨⟨named, voiced⟩, parsed, rest⟩ := bind_eq_ok_iff.mp built
    obtain ⟨_, readRules, parsed⟩ := bind_eq_ok_iff.mp (mapError_eq_ok_iff.mp parsed)
    obtain ⟨_, readSounds, same⟩ := bind_eq_ok_iff.mp parsed
    cases same
    obtain ⟨types, known, rest⟩ := bind_eq_ok_iff.mp rest
    obtain ⟨resolved, same⟩ := check_bind_eq_ok_iff.mp rest
    cases same
    exact ⟨readRules, readSounds, known, mapError_eq_ok_iff.mp resolved⟩
  · rintro ⟨readRules, readSounds, known, resolved⟩
    have parsed : parseSections rules sounds = .ok (registry.rules, registry.sounds) :=
      bind_eq_ok_iff.mpr ⟨_, readRules, bind_eq_ok_iff.mpr ⟨_, readSounds, rfl⟩⟩
    refine bind_eq_ok_iff.mpr ⟨_, mapError_eq_ok_iff.mpr parsed, ?_⟩
    refine bind_eq_ok_iff.mpr ⟨_, known, ?_⟩
    exact check_bind_eq_ok_iff.mpr ⟨mapError_eq_ok_iff.mpr resolved, rfl⟩

/-- In a registry that was built, each sound has the name that it is found under. -/
theorem name_of_sound? {rules sounds carTypes : Token} {registry : Registry}
    (built : build rules sounds carTypes = .ok registry) {name : String} {sound : Sound}
    (found : registry.sound? name = some sound) : sound.name = name := by
  -- The sound is one of the section, where it was read under the name that it is found by.
  obtain ⟨_, reads, _⟩ := build_eq_ok_iff.mp built
  have member : (name, sound) ∈ registry.sounds := mem_of_lookup found
  obtain ⟨_, _, _, _, read⟩ := reads.entry_of_mem member
  exact Sound.name_of_ofEntry read

/-- A registry resolves exactly where its parts fit together. -/
theorem resolve_eq_ok_iff_coherent {registry : Registry} {listed : List String}
    (known : registry.carTypes = listed.map lowercase) :
    registry.resolve = .ok () ↔ Coherent registry.rules registry.sounds listed := by
  -- Only the car types differ: one side compares with those listed, the other with their lower
  -- case.
  rw [resolve_eq_ok_iff]
  constructor
  · rintro ⟨resolves, acyclic⟩
    refine ⟨fun entry member => (resolves entry member).refs,
      fun entry member => (resolves entry member).sounds, ?_, acyclic⟩
    intro entry member value inner asked
    have found := (resolves entry member).carTypes value inner asked
    rw [known, List.mem_map] at found
    obtain ⟨type, listedType, same⟩ := found
    exact ⟨type, listedType, same.symm⟩
  · rintro ⟨refs, sounds, carTypes, acyclic⟩
    refine ⟨fun entry member => ⟨refs entry member, sounds entry member, ?_⟩, acyclic⟩
    intro value inner asked
    obtain ⟨type, listedType, same⟩ := carTypes entry member value inner asked
    rw [known, List.mem_map]
    exact ⟨type, listedType, same.symm⟩

/-- Some registry is built exactly where what is read from the sections fits together. -/
theorem exists_build_eq_ok_iff {rules sounds carTypes : Token} :
    (∃ registry, build rules sounds carTypes = .ok registry) ↔
      ∃ named voiced listed, Section.Reads Rule.ofEntry rules named ∧
        Section.Reads Sound.ofEntry sounds voiced ∧ listedCarTypes? carTypes = some listed ∧
        Coherent named voiced listed := by
  -- Where all is read, resolving comes to the same as fitting together.
  simp only [build_eq_ok_iff]
  constructor
  · rintro ⟨registry, readRules, readSounds, ⟨listed, lists, known⟩, resolved⟩
    exact ⟨_, _, listed, readRules, readSounds, lists,
      (resolve_eq_ok_iff_coherent known).mp resolved⟩
  · rintro ⟨named, voiced, listed, readRules, readSounds, lists, coherent⟩
    exact ⟨⟨named, voiced, listed.map lowercase⟩, readRules, readSounds, ⟨listed, lists, rfl⟩,
      (resolve_eq_ok_iff_coherent rfl).mpr coherent⟩

end Registry

/-- Where names are distinct, a value is found under a name exactly where it stands with it. -/
theorem lookup_eq_some_iff_mem {α : Type} {named : List (String × α)}
    (distinct : (named.map (·.1)).Nodup) {name : String} {value : α} :
    named.lookup name = some value ↔ (name, value) ∈ named := by
  -- The first entry has the name or not, and if it has, no later one can.
  induction named with
  | nil => simp
  | cons entry rest ih =>
    obtain ⟨other, first⟩ := entry
    obtain ⟨fresh, distinct⟩ := List.nodup_cons.mp distinct
    rw [List.lookup_cons]
    by_cases same : name = other
    · subst same
      have absent : (name, value) ∉ rest := fun member =>
        fresh (List.mem_map.mpr ⟨_, member, rfl⟩)
      simp [absent, eq_comm]
    · have different : (name == other) = false := beq_eq_false_iff_ne.mpr same
      simp [different, same, ih distinct]

/-- Where names are distinct, what is found under a name does not depend on the order of names. -/
theorem lookup_eq_of_perm {α : Type} {named others : List (String × α)} (perm : named.Perm others)
    (distinct : (named.map (·.1)).Nodup) (name : String) :
    named.lookup name = others.lookup name := by
  -- What is found is what stands there with the name, and a list holds the same in any order.
  have kept : (others.map (·.1)).Nodup := (perm.map _).nodup_iff.mp distinct
  ext value
  rw [lookup_eq_some_iff_mem distinct, lookup_eq_some_iff_mem kept, perm.mem_iff]

/-- The graph of references does not depend on the order of rules with distinct names. -/
theorem NamedRules.refers_eq_of_perm {rules others : NamedRules} (perm : rules.Perm others)
    (distinct : rules.names.Nodup) : rules.Refers = others.Refers := by
  -- A lookup among distinct names finds the same rule in any order.
  funext name other
  unfold NamedRules.Refers
  rw [lookup_eq_of_perm perm distinct name, NamedRules.names, NamedRules.names,
    (perm.map _).mem_iff]

/-- Rules and sounds fit together in whatever order they stand. -/
theorem Coherent.of_perm {rules others : NamedRules} {sounds voices : List (String × Sound)}
    {listed : List String} (coherent : Coherent rules sounds listed) (perm : rules.Perm others)
    (voiced : sounds.Perm voices) (distinct : rules.names.Nodup) :
    Coherent others voices listed where
  refs entry member name found :=
    (perm.map _).mem_iff.mp (coherent.refs entry (perm.mem_iff.mpr member) name found)
  sounds entry member name found :=
    (voiced.map _).mem_iff.mp (coherent.sounds entry (perm.mem_iff.mpr member) name found)
  carTypes entry member := coherent.carTypes entry (perm.mem_iff.mpr member)
  acyclic := by
    -- Membership does not depend on the order, and neither does the graph of references.
    have acyclic := coherent.acyclic
    unfold NamedRules.Acyclic at acyclic ⊢
    rwa [← NamedRules.refers_eq_of_perm perm distinct]

/-- Keys that tell entries apart do so in any order. -/
theorem Entries.Distinct.of_perm {entries others : Entries} (distinct : entries.Distinct)
    (perm : entries.Perm others) : others.Distinct := by
  -- To be told apart is symmetric, so it survives any order.
  refine (perm.pairwise_iff ?_).mp distinct
  intro entry other apart
  rwa [Scalar.sameKey_comm]

/-- Of two sections with the same entries in different orders, either stands beside the other. -/
theorem Section.Reordered.symm {token other : Token} (reordered : Section.Reordered token other) :
    Section.Reordered other token := by
  -- The same permutation goes both ways, and keys stay distinct under it.
  cases reordered with
  | absent => exact .absent
  | mapping distinct perm => exact .mapping (distinct.of_perm perm) perm.symm

/-- The keys of a mapping that is read are the texts of the names. -/
theorem Section.Reads.keys {α : Type} {read : String → Token → Except ParseError α}
    {entries : Entries} {named : List (String × α)}
    (reads : Section.Reads read (.mapping entries) named) :
    entries.map (·.1) = named.map fun value => Scalar.text value.1 := by
  -- By induction along the entries and what is read from them.
  obtain _ | ⟨each⟩ := reads
  induction each with
  | nil => rfl
  | cons given _ ih => simp only [List.map_cons, given.1, ih]

/-- The names read from a mapping whose keys tell its entries apart are distinct. -/
theorem Section.Reads.names_nodup {α : Type} {read : String → Token → Except ParseError α}
    {entries : Entries} {named : List (String × α)}
    (reads : Section.Reads read (.mapping entries) named) (distinct : entries.Distinct) :
    (named.map (·.1)).Nodup := by
  -- Keys that are texts are told apart by nothing but their texts.
  have apart : (entries.map (·.1)).Pairwise fun key other => ¬ key.sameKey other :=
    List.pairwise_map.mpr distinct
  rw [reads.keys, List.pairwise_map] at apart
  refine List.pairwise_map.mpr (apart.imp fun different same => different ?_)
  simp [Scalar.sameKey, Scalar.identity?, same]

/-- A section with its entries in another order gives the same named values in another order. -/
theorem Section.Reads.of_reordered {α : Type} {read : String → Token → Except ParseError α}
    {token other : Token} {named : List (String × α)} (reads : Section.Reads read token named)
    (reordered : Section.Reordered token other) :
    (named.map (·.1)).Nodup ∧ ∃ values, Section.Reads read other values ∧ named.Perm values := by
  -- An absent section has one order only; a mapping is permuted together with what is read.
  cases reordered with
  | absent => exact ⟨by cases reads; exact .nil, named, reads, .refl named⟩
  | mapping distinct perm =>
    -- Each entry is read as before, so what is read changes places with it.
    refine ⟨reads.names_nodup distinct, ?_⟩
    obtain _ | ⟨each⟩ := reads
    obtain ⟨values, given, same⟩ := List.perm_comp_forall₂ perm.symm each
    exact ⟨values, .mapping given, same.symm⟩

namespace Registry

/-- Sections with their entries in another order build a registry with the same rule and the same
sound under each name. -/
theorem build_of_reordered {rules others sounds voices carTypes : Token} {registry : Registry}
    (rulesReordered : Section.Reordered rules others)
    (soundsReordered : Section.Reordered sounds voices)
    (built : build rules sounds carTypes = .ok registry) :
    ∃ other, build others voices carTypes = .ok other ∧
      ∀ name, registry.rule? name = other.rule? name ∧
        registry.sound? name = other.sound? name := by
  -- Both sections are read in their new order, and what is read still fits together.
  obtain ⟨readRules, readSounds, ⟨listed, lists, known⟩, resolved⟩ := build_eq_ok_iff.mp built
  obtain ⟨namedDistinct, named, readOthers, namedPerm⟩ := readRules.of_reordered rulesReordered
  obtain ⟨voicedDistinct, voiced, readVoices, voicedPerm⟩ := readSounds.of_reordered soundsReordered
  have coherent := ((resolve_eq_ok_iff_coherent known).mp resolved).of_perm namedPerm voicedPerm
    namedDistinct
  refine ⟨⟨named, voiced, listed.map lowercase⟩, build_eq_ok_iff.mpr ⟨readOthers, readVoices,
    ⟨listed, lists, rfl⟩, (resolve_eq_ok_iff_coherent rfl).mpr coherent⟩, fun name => ?_⟩
  exact ⟨lookup_eq_of_perm namedPerm namedDistinct name,
    lookup_eq_of_perm voicedPerm voicedDistinct name⟩

/-- The registry of a rule with one sound and of another rule that refers to it. -/
theorem build_horns :
    build
      (.mapping [
        (.text "root", .text "horns"),
        (.text "horns",
          .mapping [(.text "type", .text "AllOf"), (.text "sounds", .list [.text "horn"])])])
      (.mapping [
        (.text "horn",
          .mapping [(.text "type", .text "HornHit"), (.text "filename", .text "a.ogg")])])
      .null =
    .ok ⟨[("root", .ref "horns"), ("horns", .allOf [.sound "horn"])],
      [("horn", ⟨"horn", .hornHit, ["a.ogg"], none, none, none, none, none⟩)],
      Car.defaultTypes.map lowercase⟩ := by
  -- What was read is given part by part, and what is left is that it is coherent.
  rw [build_eq_ok_iff]
  refine ⟨.mapping (.cons ⟨rfl, rfl⟩ (.cons ⟨rfl, rfl⟩ .nil)),
    .mapping (.cons ⟨rfl, by decide +kernel⟩ .nil), ⟨Car.defaultTypes, rfl, rfl⟩, ?_⟩
  rw [resolve_eq_ok_iff_coherent rfl]
  refine ⟨by simp, by simp, by simp, ?_⟩
  -- The search comes from the root to the horns, which refer to nothing.
  rw [← NamedRules.findCycle?_eq_none_iff]
  simp [NamedRules.findCycle?, NamedRules.searchFrom, NamedRules.search, NamedRules.refsOf,
    NamedRules.names, List.lookup_cons, Rule.refs, Rule.refsOfAll]

/--
A registry is built exactly from sections that fit together.

Each key is a name, each token can be read, each name in a rule is a key, each car type is listed
but for the case of its letters, and no rule comes back to itself along references.
The registry holds what is read under each name, in the order written.
Neither whether one is built nor what is found in it depends on that order.
-/
theorem build_exact (rules sounds carTypes : Token) :
    ((∃ registry, build rules sounds carTypes = .ok registry) ↔
      ∃ named voiced listed, Section.Reads Rule.ofEntry rules named ∧
        Section.Reads Sound.ofEntry sounds voiced ∧ listedCarTypes? carTypes = some listed ∧
        Coherent named voiced listed) ∧
    (∀ registry, build rules sounds carTypes = .ok registry →
      Section.Reads Rule.ofEntry rules registry.rules ∧
      Section.Reads Sound.ofEntry sounds registry.sounds) ∧
    ∀ others voices, Section.Reordered rules others → Section.Reordered sounds voices →
      ((∃ registry, build rules sounds carTypes = .ok registry) ↔
        ∃ registry, build others voices carTypes = .ok registry) ∧
      ∀ registry other, build rules sounds carTypes = .ok registry →
        build others voices carTypes = .ok other →
        ∀ name, registry.rule? name = other.rule? name ∧
          registry.sound? name = other.sound? name := by
  -- The order matters to neither direction, as each section may be put back as it was.
  refine ⟨exists_build_eq_ok_iff, fun registry built => ?_,
    fun others voices rulesReordered soundsReordered => ⟨⟨?_, ?_⟩, ?_⟩⟩
  · obtain ⟨readRules, readSounds, _⟩ := build_eq_ok_iff.mp built
    exact ⟨readRules, readSounds⟩
  · rintro ⟨registry, built⟩
    obtain ⟨other, builtOther, _⟩ := build_of_reordered rulesReordered soundsReordered built
    exact ⟨other, builtOther⟩
  · rintro ⟨other, built⟩
    obtain ⟨registry, builtRegistry, _⟩ :=
      build_of_reordered rulesReordered.symm soundsReordered.symm built
    exact ⟨registry, builtRegistry⟩
  · intro registry other built builtOther
    obtain ⟨same, builtSame, found⟩ := build_of_reordered rulesReordered soundsReordered built
    rw [builtOther] at builtSame
    cases builtSame
    exact found

/-- A reference may be written before the rule that it names or after it. -/
theorem build_horns_in_both_orders :
    let root : Scalar × Token := (.text "root", .text "horns")
    let horns : Scalar × Token :=
      (.text "horns",
        .mapping [(.text "type", .text "AllOf"), (.text "sounds", .list [.text "horn"])])
    let sounds : Token := .mapping [
      (.text "horn", .mapping [(.text "type", .text "HornHit"), (.text "filename", .text "a.ogg")])]
    ∃ registry other, build (.mapping [root, horns]) sounds .null = .ok registry ∧
      build (.mapping [horns, root]) sounds .null = .ok other ∧
      ∀ name, registry.rule? name = other.rule? name ∧
        registry.sound? name = other.sound? name := by
  -- The two orders of the rules are a swap, and the sounds stay where they are.
  intro root horns sounds
  obtain ⟨_, _, reordered⟩ := build_exact (.mapping [root, horns]) sounds .null
  have swapped : Section.Reordered (.mapping [root, horns]) (.mapping [horns, root]) :=
    .mapping (by simp [Entries.Distinct, root, horns, Scalar.sameKey, Scalar.identity?])
      (.swap _ _ _)
  have kept : Section.Reordered sounds sounds := .mapping (by simp [Entries.Distinct]) (.refl _)
  obtain ⟨⟨builds, _⟩, same⟩ := reordered _ _ swapped kept
  obtain ⟨other, built⟩ := builds ⟨_, build_horns⟩
  exact ⟨_, other, build_horns, built, same _ other build_horns built⟩

end Registry

end LocoSounds
