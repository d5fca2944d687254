import LocoSounds.Proofs.Library.Merging

/-! What a library holds after any number of documents: of each key the place where it came first,
and the token that came last. -/

namespace LocoSounds

namespace Section

/-- The token that some documents have under a key of a section: that of the last which has it. -/
def last? (part : Section) (documents : List Token) (key : Scalar) : Option Token :=
  documents.reverse.findSome? fun document => (part.entriesIn document).last? key

/-- The section of some documents as one: each key in the place where a document has it first, with
the token of the last document that has it. -/
def union (part : Section) (documents : List Token) : Entries :=
  (Entries.firsts (documents.flatMap part.entriesIn)).map fun entry =>
    (entry.1, (part.last? documents entry.1).getD entry.2)

/-- Two documents have the same entries in a section, but for tokens under keys that one of some
later documents has again. -/
def AlikeBut (part : Section) (later : List Token) (document other : Token) : Prop :=
  List.Forall₂ (fun entry changed => entry.1 = changed.1 ∧
    (entry.2 = changed.2 ∨ ∃ after ∈ later, (part.entriesIn after).hasKey entry.1))
    (part.entriesIn document) (part.entriesIn other)

/-- Entries of documents put in one after another make up the section of the documents as one. -/
theorem ofPairs_flatMap (part : Section) (documents : List Token) :
    Entries.ofPairs (documents.flatMap part.entriesIn) = part.union documents := by
  -- Both are made of the first places of keys and the last tokens under them.
  simp only [Entries.ofPairs_eq, Entries.last?_flatMap]
  rfl

/-- What the documents of a list have under a key, the later ones first. -/
theorem last?_append (part : Section) (documents later : List Token) (key : Scalar) :
    part.last? (documents ++ later) key =
      (part.last? later key).or (part.last? documents key) := by
  -- The documents are searched from the last one, so the later ones are searched before the others.
  unfold last?
  rw [List.reverse_append, List.findSome?_append]

/-- What the first document has under a key is found where no later one has it. -/
theorem last?_cons (part : Section) (document : Token) (later : List Token) (key : Scalar) :
    part.last? (document :: later) key =
      (part.last? later key).or ((part.entriesIn document).last? key) := by
  -- One document is the list of it alone, searched after the later ones.
  rw [← List.singleton_append, last?_append]
  cases found : (part.entriesIn document).last? key <;> simp [last?, found]

/-- Documents have a token under the keys that one of them has. -/
theorem last?_eq_none_iff {part : Section} {documents : List Token} {key : Scalar} :
    part.last? documents key = none ↔
      ∀ document ∈ documents, (part.entriesIn document).hasKey key = false := by
  -- The search finds nothing only where each document searched has nothing.
  simp [last?, List.findSome?_eq_none_iff, Entries.last?_eq_none_iff]

/-- A token that a later document replaces has no part in the section of all of them. -/
theorem union_of_alikeBut {part : Section} {later : List Token} {document other : Token}
    (alike : part.AlikeBut later document other) (before : List Token) :
    part.union (before ++ document :: later) = part.union (before ++ other :: later) := by
  -- Each key keeps its place, so only the tokens that come last have to be compared.
  have same : ∀ entries : Entries, List.Forall₂ (fun entry changed => entry.1 = changed.1 ∧
      (entry.2 = changed.2 ∨ ∃ after ∈ later, (part.entriesIn after).hasKey entry.1))
      entries entries :=
    fun entries => List.forall₂_same.mpr fun entry _ => ⟨rfl, .inl rfl⟩
  -- Each key has its place in both lists, as the entries stand side by side.
  have each : List.Forall₂ (fun entry changed => entry.1 = changed.1 ∧
      (entry.2 = changed.2 ∨ ∃ after ∈ later, (part.entriesIn after).hasKey entry.1))
      ((before ++ document :: later).flatMap part.entriesIn)
      ((before ++ other :: later).flatMap part.entriesIn) := by
    simp only [List.flatMap_append, List.flatMap_cons]
    exact List.rel_append (same _) (List.rel_append alike (same _))
  -- The same token comes last under each key, from a later document or from an entry kept.
  have tokens : ∀ key, part.last? (before ++ document :: later) key =
      part.last? (before ++ other :: later) key := by
    intro key
    simp only [last?_append, last?_cons]
    cases found : part.last? later key with
    | some token => rfl
    | none =>
      have absent := last?_eq_none_iff.mp found
      have kept : (part.entriesIn document).last? key = (part.entriesIn other).last? key := by
        refine Entries.last?_eq_of_forall₂ (alike.imp fun entry changed ⟨named, given⟩ => ?_)
        refine ⟨named, fun names => given.resolve_right ?_⟩
        rintro ⟨after, member, has⟩
        rw [Entries.hasKey_congr names, absent after member] at has
        cases has
      rw [kept]
  have firsts := Entries.forall₂_firsts (fun _ _ related => related.1) each
  rw [union, union, ← List.forall₂_eq_eq_eq, List.forall₂_map_left_iff, List.forall₂_map_right_iff]
  refine firsts.imp fun entry changed ⟨named, given⟩ => ?_
  rw [← named, ← tokens]
  obtain kept | ⟨after, member, has⟩ := given
  · rw [kept]
  · -- A token that is replaced is not what is found.
    have found : part.last? (before ++ document :: later) entry.1 ≠ none := by
      intro none
      have absent := last?_eq_none_iff.mp none after (by simp [member])
      rw [absent] at has
      cases has
    obtain ⟨token, found⟩ := Option.ne_none_iff_exists'.mp found
    rw [found, Option.getD_some, Option.getD_some]

end Section

/-- Some documents as one. -/
def Token.union (documents : List Token) : Token :=
  .mapping [(.text "sounds", .mapping (Section.sounds.union documents)),
    (.text "rules", .mapping (Section.rules.union documents))]

/-- The registry of some documents as one. -/
def Registry.ofUnion (documents : List Token) (carTypes : Token) : Except BuildError Registry :=
  build (.mapping (Section.rules.union documents)) (.mapping (Section.sounds.union documents))
    carTypes

namespace Library

/-- Each entry taken over has a place of its own, or its key is recorded. -/
theorem journal_taking (library : Library) (source : String) (part : Section) (given : Entries) :
    ∃ events, (library.taking source part given).journal = library.journal ++ events ∧
      (∀ event ∈ events, ∃ key, event = .overridden source part key) ∧
      events.length + ((library.taking source part given).entries part).length =
        (library.entries part).length + given.length := by
  -- By induction on the entries, each of which adds one place or one record.
  unfold taking
  induction given generalizing library with
  | nil => exact ⟨[], (List.append_nil _).symm, nofun, by simp⟩
  | cons entry rest ih =>
    obtain ⟨events, recorded, overridden, count⟩ := ih (put source part library entry)
    have length := Entries.length_insert (library.entries part) entry.1 entry.2
    rw [entries_put, if_pos rfl] at count
    rw [journal_put] at recorded
    rw [List.foldl_cons, recorded, List.append_assoc]
    refine ⟨_, rfl, fun event member => ?_, ?_⟩
    · obtain here | later := List.mem_append.mp member
      · split at here
        · exact ⟨entry.1, List.mem_singleton.mp here⟩
        · cases here
      · exact overridden event later
    · -- The entry is recorded where it takes no place of its own.
      rw [List.length_append, List.length_cons]
      cases known : (library.entries part).hasKey entry.1 <;> simp [known] at length ⊢ <;> omega

/-- A library holds what some documents have as one, and has recorded each entry that took the place
of another one. -/
structure Unites (library : Library) (documents : List Token) : Prop where
  entries : ∀ part, library.entries part = Entries.ofPairs (documents.flatMap part.entriesIn)
  overridden : ∀ event ∈ library.journal, ∃ source part key, event = .overridden source part key
  recorded : library.journal.length + library.sounds.length + library.rules.length =
    (documents.flatMap Section.sounds.entriesIn).length +
      (documents.flatMap Section.rules.entriesIn).length

/-- A library without entries holds what no documents have. -/
theorem unites_empty (directory : Option FilePath) : (empty directory).Unites [] where
  entries part := by cases part <;> rfl
  overridden := nofun
  recorded := rfl

/-- A library that adds a document holds it with those before. -/
theorem Unites.adding {library : Library} {documents : List Token}
    (unites : library.Unites documents) (source : String) (document : Token) :
    (library.adding source document).Unites (documents ++ [document]) := by
  -- The sounds are taken over first, then the rules, and neither changes the other.
  obtain ⟨first, recordedFirst, soundsOverridden, soundsCount⟩ :=
    library.journal_taking source .sounds (Section.sounds.entriesIn document)
  obtain ⟨second, recordedSecond, rulesOverridden, rulesCount⟩ :=
    (library.taking source .sounds (Section.sounds.entriesIn document)).journal_taking source .rules
      (Section.rules.entriesIn document)
  have journal : (library.adding source document).journal = library.journal ++ first ++ second := by
    rw [Library.adding, recordedSecond, recordedFirst]
  constructor
  · intro part
    rw [List.flatMap_append, List.flatMap_singleton, Entries.ofPairs_append, ← unites.entries part,
      Library.adding, entries_taking, entries_taking, entries_taking]
    cases part <;> simp
  · rw [journal]
    intro event member
    obtain (seen | sound) | rule := by simpa only [List.mem_append] using member
    · exact unites.overridden event seen
    · obtain ⟨key, named⟩ := soundsOverridden event sound
      exact ⟨source, .sounds, key, named⟩
    · obtain ⟨key, named⟩ := rulesOverridden event rule
      exact ⟨source, .rules, key, named⟩
  · -- Entries taken over in one section leave the length of the other one alone.
    have sounds : (library.adding source document).sounds =
        (library.taking source .sounds (Section.sounds.entriesIn document)).entries .sounds :=
      (entries_taking _ source .rules .sounds _).trans (if_neg nofun)
    have rules : library.rules =
        (library.taking source .sounds (Section.sounds.entriesIn document)).entries .rules :=
      ((entries_taking library source .sounds .rules _).trans (if_neg nofun)).symm
    rw [← rules] at rulesCount
    have soundsCount : first.length + (library.adding source document).sounds.length =
        library.sounds.length + (Section.sounds.entriesIn document).length := sounds ▸ soundsCount
    have rulesCount : second.length + (library.adding source document).rules.length =
        library.rules.length + (Section.rules.entriesIn document).length := rulesCount
    have before := unites.recorded
    rw [journal]
    simp only [List.flatMap_append, List.flatMap_singleton, List.length_append]
    omega

/-- Documents merged one after another are held together with those before them. -/
theorem Unites.run_forM_merge {library after : Library} {seen : List Token}
    (unites : library.Unites seen) {given : List (String × Token)}
    (merged : (given.forM fun entry => merge entry.1 entry.2).run library = (.ok (), after)) :
    after.Unites (seen ++ given.map (·.2)) := by
  -- Each document that could be merged is added to those seen, and the run goes on from there.
  induction given generalizing library seen with
  | nil =>
    cases merged
    rwa [List.map_nil, List.append_nil]
  | cons entry rest ih =>
    rw [List.forM, Loading.run_bind] at merged
    rcases ran : (merge entry.1 entry.2).run library with ⟨_ | _, between⟩ <;> rw [ran] at merged
    · cases merged
    · obtain ⟨_, rfl⟩ := run_merge_eq_ok_iff.mp ran
      have held := ih (unites.adding entry.1 entry.2) merged
      rwa [List.append_assoc] at held

section

variable {library : Library} {documents : List Token} (unites : library.Unites documents)
include unites

/-- Each section of the library is the one of the documents as one. -/
theorem Unites.union (part : Section) : library.entries part = part.union documents := by
  -- The library holds the entries of the documents put in one after another.
  rw [unites.entries, Section.ofPairs_flatMap]

/-- The merged document has the sections of the documents as one. -/
theorem Unites.document_eq : library.document = Token.union documents := by
  -- The merged document consists of the two sections of the library.
  have sounds : library.sounds = Section.sounds.union documents := unites.union .sounds
  have rules : library.rules = Section.rules.union documents := unites.union .rules
  rw [Library.document, sounds, rules]
  rfl

/-- The registry is the one of the documents as one, or fails as that one does. -/
theorem Unites.run_build (carTypes : Token) :
    ((build carTypes).run library).1 = (Registry.ofUnion documents carTypes).mapError .build := by
  -- Building looks at nothing but the two sections of the library.
  have sounds : library.sounds = Section.sounds.union documents := unites.union .sounds
  have rules : library.rules = Section.rules.union documents := unites.union .rules
  rw [Library.run_build, sounds, rules, Registry.ofUnion]
  cases Registry.build (.mapping (Section.rules.union documents))
    (.mapping (Section.sounds.union documents)) carTypes <;> rfl

end

end Library

end LocoSounds
