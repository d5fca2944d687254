import LocoSounds.Proofs.Library.Loading
import LocoSounds.Proofs.Token.Entries

/-! Merging documents: what a library takes over, and what of it stays where a merge fails. -/

namespace LocoSounds

/-- A section that can be merged is a mapping, or null, which stands for none. -/
def Section.FitIn (part : Section) (entries : Entries) : Prop :=
  Entries.getD entries part.name = .scalar .null ∨
    ∃ inner, Entries.getD entries part.name = .mapping inner

/-- A document that can be merged is a mapping with sections that can be. -/
def Token.Mergeable (document : Token) : Prop :=
  ∃ entries, document = .mapping entries ∧ ∀ part : Section, part.FitIn entries

/-- The entries that a document has in a section. -/
def Section.entriesIn (part : Section) : Token → Entries
  | .mapping entries =>
    match Entries.getD entries part.name with
    | .mapping inner => inner
    | _ => []
  | _ => []

/-- Why a document from a named source is not merged. Its sounds are looked at before its rules. -/
inductive Token.Refused (source : String) : Token → LoadError → Prop where
  | document {document : Token} (other : ∀ entries, document ≠ .mapping entries) :
      Refused source document .notMapping
  | sounds {entries : Entries} (unfit : ¬ Section.sounds.FitIn entries) :
      Refused source (.mapping entries)
        (.build (.parse (.malformed (.sectionNotMapping .sounds) (.start source))))
  | rules {entries : Entries} (fit : Section.sounds.FitIn entries)
      (unfit : ¬ Section.rules.FitIn entries) :
      Refused source (.mapping entries)
        (.build (.parse (.malformed (.sectionNotMapping .rules) (.start source))))

/-- A section that is a mapping has the entries of that mapping. -/
theorem Section.entriesIn_of_getD {part : Section} {entries inner : Entries}
    (found : Entries.getD entries part.name = .mapping inner) :
    part.entriesIn (.mapping entries) = inner := by
  -- What is looked up for the section is that mapping.
  simp only [Section.entriesIn, found]

/-- A section that is no mapping has no entries. -/
theorem Section.entriesIn_of_not_mapping {part : Section} {entries : Entries}
    (other : ∀ inner, Entries.getD entries part.name ≠ .mapping inner) :
    part.entriesIn (.mapping entries) = [] := by
  -- For each other kind of token the entries are none by definition.
  cases found : Entries.getD entries part.name with
  | mapping inner => exact absurd found (other inner)
  | _ => simp only [Section.entriesIn, found]

/-- Any document can be merged or is refused. -/
theorem Token.mergeable_or_refused (source : String) (document : Token) :
    document.Mergeable ∨ ∃ error, document.Refused source error := by
  -- The checks come in this order: the document, its sounds, its rules.
  by_cases mapping : ∃ entries, document = .mapping entries
  · obtain ⟨entries, rfl⟩ := mapping
    by_cases sounds : Section.sounds.FitIn entries
    · by_cases rules : Section.rules.FitIn entries
      · refine .inl ⟨entries, rfl, fun part => ?_⟩
        cases part with
        | sounds => exact sounds
        | rules => exact rules
      · exact .inr ⟨_, .rules sounds rules⟩
    · exact .inr ⟨_, .sounds sounds⟩
  · exact .inr ⟨_, .document fun entries same => mapping ⟨entries, same⟩⟩

namespace Library

/-- An entry goes into its own section and leaves the other one alone. -/
theorem entries_put (source : String) (part other : Section) (library : Library)
    (entry : Scalar × Token) :
    (put source part library entry).entries other =
      if other = part then (library.entries part).insert entry.1 entry.2
      else library.entries other := by
  -- A section is written whether or not its key was there, and the other one is not touched.
  unfold put
  cases part <;> cases other <;> dsimp only [entries, withSection] <;> split <;> rfl

/-- An entry that takes the place of another one is recorded, and nothing else is. -/
theorem journal_put (source : String) (part : Section) (library : Library)
    (entry : Scalar × Token) :
    (put source part library entry).journal = library.journal ++
      if (library.entries part).hasKey entry.1 then [.overridden source part entry.1] else [] := by
  -- Only the branch for a key that was there already adds an event.
  unfold put
  cases part <;> dsimp only [withSection, entries] <;> split <;> simp_all

/-- A library that has taken over entries into a section, one after another. -/
def taking (library : Library) (source : String) (part : Section) (given : Entries) : Library :=
  given.foldl (put source part) library

/-- Entries taken over go into their own section. -/
theorem entries_taking (library : Library) (source : String) (part other : Section)
    (given : Entries) : (library.taking source part given).entries other =
      if other = part then
        given.foldl (fun entries entry => entries.insert entry.1 entry.2) (library.entries part)
      else library.entries other := by
  -- Each entry changes its own section, on which the next one goes on.
  unfold taking
  induction given generalizing library with
  | nil =>
    split
    · rename_i same
      rw [same]
      rfl
    · rfl
  | cons entry rest ih =>
    rw [List.foldl_cons, ih, entries_put, entries_put, if_pos rfl]
    split <;> rfl

/-- A section whose entries are taken over is the mapping that it is, or none at all. -/
theorem run_mergeSection_of_fitIn {part : Section} {entries : Entries} (fit : part.FitIn entries)
    (source : String) (library : Library) :
    (mergeSection source part entries).run library =
      (.ok (), library.taking source part (part.entriesIn (.mapping entries))) := by
  -- An absent section has nothing to take over, and a mapping has its entries.
  obtain null | ⟨inner, found⟩ := fit
  · simp only [mergeSection, Section.entriesIn, null]
    rfl
  · simp only [mergeSection, Section.entriesIn, found]
    rfl

/-- A section that cannot be merged is what is said to be at fault, and leaves the library alone. -/
theorem run_mergeSection_of_not_fitIn {part : Section} {entries : Entries}
    (unfit : ¬ part.FitIn entries) (source : String) (library : Library) :
    (mergeSection source part entries).run library =
      (.error (.build (.parse (.malformed (.sectionNotMapping part) (.start source)))),
        library) := by
  -- The other two cases of the reader are those that fit.
  unfold mergeSection
  split
  · rename_i null
    exact absurd (.inl null) unfit
  · rename_i inner found
    exact absurd (.inr ⟨inner, found⟩) unfit
  · rfl

/-- A library that has taken over the entries of a document. -/
def adding (library : Library) (source : String) (document : Token) : Library :=
  (library.taking source .sounds (Section.sounds.entriesIn document)).taking source .rules
    (Section.rules.entriesIn document)

/-- A document that can be merged is taken over as a whole. -/
theorem run_merge_of_mergeable {document : Token} (mergeable : document.Mergeable)
    (source : String) (library : Library) :
    (merge source document).run library = (.ok (), library.adding source document) := by
  -- The sounds are taken over first, and then the rules into what that leaves.
  obtain ⟨entries, rfl, fit⟩ := mergeable
  rw [merge, Loading.run_bind, run_mergeSection_of_fitIn (fit .sounds)]
  exact run_mergeSection_of_fitIn (fit .rules) source _

/-- A document that is refused has its sounds taken over all the same. -/
theorem run_merge_of_refused {source : String} {document : Token} {error : LoadError}
    (refused : document.Refused source error) (library : Library) :
    (merge source document).run library =
      (.error error, library.taking source .sounds (Section.sounds.entriesIn document)) := by
  -- Sounds that are no mapping have no entries, and those before unfit rules are merged already.
  cases refused with
  | document other =>
    cases document with
    | mapping entries => exact absurd rfl (other entries)
    | _ => rfl
  | sounds unfit =>
    rw [merge, Loading.run_bind, run_mergeSection_of_not_fitIn unfit,
      Section.entriesIn_of_not_mapping fun inner found => unfit (.inr ⟨inner, found⟩)]
    rfl
  | rules fit unfit =>
    rw [merge, Loading.run_bind, run_mergeSection_of_fitIn fit]
    exact run_mergeSection_of_not_fitIn unfit source _

/-- A merge succeeds with the documents that can be merged, and takes them over as a whole. -/
theorem run_merge_eq_ok_iff {source : String} {document : Token} {library after : Library} :
    (merge source document).run library = (.ok (), after) ↔
      document.Mergeable ∧ after = library.adding source document := by
  -- A document that cannot be merged is refused, so it does not succeed.
  constructor
  · intro merged
    obtain mergeable | ⟨error, refused⟩ := document.mergeable_or_refused source
    · rw [run_merge_of_mergeable mergeable] at merged
      exact ⟨mergeable, (Prod.mk.inj merged).2.symm⟩
    · rw [run_merge_of_refused refused] at merged
      cases (Prod.mk.inj merged).1
  · rintro ⟨mergeable, rfl⟩
    exact run_merge_of_mergeable mergeable source library

/-- A merge fails with the documents that are refused, and takes over their sounds. -/
theorem run_merge_eq_error_iff {source : String} {document : Token} {library after : Library}
    {error : LoadError} :
    (merge source document).run library = (.error error, after) ↔
      document.Refused source error ∧
        after = library.taking source .sounds (Section.sounds.entriesIn document) := by
  -- A document that can be merged does not fail, so it is one that is refused.
  constructor
  · intro failed
    obtain mergeable | ⟨fault, refused⟩ := document.mergeable_or_refused source
    · rw [run_merge_of_mergeable mergeable] at failed
      cases (Prod.mk.inj failed).1
    · rw [run_merge_of_refused refused] at failed
      obtain ⟨same, rfl⟩ := Prod.mk.inj failed
      cases same
      exact ⟨refused, rfl⟩
  · rintro ⟨refused, rfl⟩
    exact run_merge_of_refused refused library

/-- A file is read before any of it is merged. -/
theorem run_loadFile (tree : FileTree) (path : FilePath) (library : Library) :
    (loadFile tree path).run library =
      match tree.document path with
      | .error error => (.error error, library)
      | .ok document =>
        match (merge path.text document).run library with
        | (.ok (), after) => (.ok document, after)
        | (.error error, after) => (.error error, after) := by
  -- Reading leaves the library alone, and what is merged after it is the document alone.
  rw [loadFile, Loading.run_bind]
  cases tree.document path with
  | error error => rfl
  | ok document =>
    have read : (liftM (.ok document : Except LoadError Token) : Loading Token).run library =
        (.ok document, library) := rfl
    rw [read]
    dsimp only
    rw [Loading.run_bind]
    rcases (merge path.text document).run library with ⟨_ | _, after⟩ <;> rfl

/-- A file fails to load where it cannot be read, or where its document cannot be merged. -/
theorem run_loadFile_eq_error_iff {tree : FileTree} {path : FilePath} {library after : Library}
    {error : LoadError} :
    (loadFile tree path).run library = (.error error, after) ↔
      tree.document path = .error error ∧ after = library ∨
      ∃ document, tree.document path = .ok document ∧
        (merge path.text document).run library = (.error error, after) := by
  -- A file is read before anything is merged.
  rw [run_loadFile]
  -- A file that cannot be read has nothing merged, so its error leaves the library alone.
  constructor
  · intro failed
    cases read : tree.document path with
    | error fault =>
      rw [read] at failed
      cases failed
      exact .inl ⟨rfl, rfl⟩
    | ok document =>
      rw [read] at failed
      dsimp only at failed
      refine .inr ⟨document, rfl, ?_⟩
      rcases ran : (merge path.text document).run library with ⟨_ | _, between⟩ <;>
        rw [ran] at failed <;> cases failed
      rfl
  · rintro (⟨unread, rfl⟩ | ⟨document, read, failed⟩)
    · rw [unread]
    · rw [read]
      dsimp only
      rw [failed]

/-- A file loads where it can be read and its document can be merged. -/
theorem run_loadFile_eq_ok_iff {tree : FileTree} {path : FilePath} {library after : Library}
    {document : Token} :
    (loadFile tree path).run library = (.ok document, after) ↔
      tree.document path = .ok document ∧
        (merge path.text document).run library = (.ok (), after) := by
  -- Both steps of the loading have to succeed, the reading and the merging.
  rw [run_loadFile]
  constructor
  · intro loaded
    cases read : tree.document path with
    | error fault =>
      rw [read] at loaded
      cases loaded
    | ok given =>
      rw [read] at loaded
      dsimp only at loaded
      rcases ran : (merge path.text given).run library with ⟨_ | _, between⟩ <;>
        rw [ran] at loaded <;> cases loaded
      exact ⟨rfl, ran⟩
  · rintro ⟨read, merged⟩
    rw [read]
    dsimp only
    rw [merged]

/--
A merge that fails has taken over the sounds of the document, and nothing else.

It fails exactly for the documents that are refused, whatever was merged before.
A file fails before any of it is merged, or in the way its document does.
Rules stay as they are in any case, and all else does where the document has no sounds to merge.
-/
theorem failed_merge_takes_sounds_alone (library : Library) :
    (∀ source document error after,
      (merge source document).run library = (.error error, after) ↔
        document.Refused source error ∧
          after = library.taking source .sounds (Section.sounds.entriesIn document)) ∧
    (∀ tree path error after,
      (loadFile tree path).run library = (.error error, after) ↔
        tree.document path = .error error ∧ after = library ∨
        ∃ document, tree.document path = .ok document ∧ document.Refused path.text error ∧
          after = library.taking path.text .sounds (Section.sounds.entriesIn document)) ∧
    ∀ source document,
      let after := library.taking source .sounds (Section.sounds.entriesIn document)
      after.rules = library.rules ∧
      after.sounds = (Section.sounds.entriesIn document).foldl
        (fun entries entry => entries.insert entry.1 entry.2) library.sounds ∧
      (Section.sounds.entriesIn document = [] → after = library) := by
  -- A merge goes through the sounds first, so a refusal can only come before them or after them.
  refine ⟨fun source document error after => run_merge_eq_error_iff,
    fun tree path error after => ?_, fun source document => ⟨?_, ?_, fun none => ?_⟩⟩
  · simp only [run_loadFile_eq_error_iff, run_merge_eq_error_iff]
  · exact library.entries_taking source .sounds .rules _
  · exact library.entries_taking source .sounds .sounds _
  · rw [none]
    rfl

/-- Sounds that cannot be merged leave even the sounds as they were. -/
theorem failed_merge_of_listed_sounds :
    let document : Token := .mapping [(.text "rules", .mapping []), (.text "sounds", .list [])]
    ∃ error, (merge "a" document).run (empty none) = (.error error, empty none) := by
  -- A list is neither absent nor a mapping, so the document is refused before anything is taken
  -- over.
  intro document
  have unfit : ¬ Section.sounds.FitIn
      [(.text "rules", .mapping []), (.text "sounds", .list [])] := by
    rintro (null | ⟨inner, found⟩)
    · cases null
    · cases found
  obtain ⟨fails, _, leaves⟩ := failed_merge_takes_sounds_alone (empty none)
  obtain ⟨_, _, unchanged⟩ := leaves "a" document
  refine ⟨_, (fails "a" document _ _).mpr ⟨.sounds unfit, (unchanged ?_).symm⟩⟩
  exact Section.entriesIn_of_not_mapping fun inner found => unfit (.inr ⟨inner, found⟩)

/-- A bell that stands beside rules that cannot be merged is in the library once the merge has
failed, and in the registry that is built from it. -/
theorem failed_merge_leaves_bell :
    let bell : Token := .mapping [(.text "type", .text "Bell"), (.text "filename", .text "b.ogg")]
    let document : Token :=
      .mapping [(.text "sounds", .mapping [(.text "bell", bell)]), (.text "rules", .list [])]
    ∃ error after, (merge "a" document).run (empty none) = (.error error, after) ∧
      after.document ≠ (empty none).document ∧
      ((build .null).run after).1 ≠ ((build .null).run (empty none)).1 := by
  -- The sounds fit and the rules do not, and the library left behind is built from.
  intro bell document
  refine ⟨_, ⟨none, [(.text "bell", bell)], [], []⟩, rfl, nofun, fun same => ?_⟩
  -- The registry of nothing has no sounds, the other one has the bell.
  have silent : ((build .null).run (empty none)).1 = .ok ⟨[], [], Registry.defaultCarTypes⟩ := rfl
  have read : Sound.ofEntry "bell" bell =
      .ok ⟨"bell", .bell, ["b.ogg"], none, none, none, none, none⟩ := by decide +kernel
  have built : Registry.build (.mapping []) (.mapping [(.text "bell", bell)]) .null =
      .ok ⟨[], [("bell", ⟨"bell", .bell, ["b.ogg"], none, none, none, none, none⟩)],
        Registry.defaultCarTypes⟩ :=
    Registry.build_eq_ok_iff.mpr ⟨.mapping .nil, .mapping (.cons ⟨rfl, read⟩ .nil),
      ⟨Car.defaultTypes, rfl, rfl⟩, rfl⟩
  rw [silent, run_build, built] at same
  cases same

end Library

end LocoSounds
