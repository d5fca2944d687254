import LocoSounds.Proofs.Library.Union

/-! Loading directories: their files are documents, taken in the order of the names. -/

namespace LocoSounds

/-- A step whose value is left out does the same to a library. -/
theorem Loading.run_discard {α : Type} (step : Loading α) (library : Library) :
    (discard step).run library =
      match step.run library with
      | (.ok _, after) => (.ok (), after)
      | (.error error, after) => (.error error, after) := by
  -- To leave out a value is to go on with a step that does nothing.
  have unfolded : (discard step).run library =
      (step >>= fun _ => (pure () : Loading Unit)).run library := rfl
  rw [unfolded, Loading.run_bind]
  rcases step.run library with ⟨_ | _, after⟩ <;> rfl

/-- The same steps for each item of a list do the same for all of it. -/
theorem Loading.forM_congr {α : Type} {items : List α} {first second : α → Loading Unit}
    (each : ∀ item ∈ items, first item = second item) : items.forM first = items.forM second := by
  -- By induction on the items, of which each does the same as before.
  induction items with
  | nil => rfl
  | cons item rest ih =>
    obtain ⟨here, later⟩ := List.forall_mem_cons.mp each
    rw [List.forM, List.forM, here, ih later]

namespace FileTree

/-- A name in the directory that some names lead to is looked up in that directory. -/
theorem walk_concat {names : List String} {name : String} (below : name ≠ "..")
    {outer : List FileTree} {tree : FileTree} {entries : List (String × FileTree)}
    (found : walk outer tree names = some (.directory entries)) :
    walk outer tree (names ++ [name]) = entries.lookup name := by
  -- Each name leads up or down in the same way, whether or not another one follows at the end.
  induction names generalizing outer tree with
  | nil =>
    cases tree with
    | file bytes => cases found
    | directory inside =>
      cases found
      rw [List.nil_append]
      unfold walk
      rw [if_neg below]
      cases entries.lookup name <;> rfl
  | cons first rest ih =>
    cases tree with
    | file bytes => cases found
    | directory inside =>
      rw [List.cons_append]
      unfold walk at found ⊢
      split at found
      · rename_i up
        rw [if_pos up]
        cases outer with
        | nil => exact ih found
        | cons around outer => exact ih found
      · rename_i down
        rw [if_neg down]
        cases entered : inside.lookup first with
        | none =>
          rw [entered] at found
          cases found
        | some inner =>
          rw [entered] at found
          exact ih found

/-- A name in a directory is looked up in that directory. -/
theorem find?_child {tree : FileTree} {path : FilePath} {entries : List (String × FileTree)}
    (found : tree.find? path = some (.directory entries)) {name : String} (below : name ≠ "..") :
    tree.find? (path.child name) = entries.lookup name :=
  walk_concat below found

/-- Double dots do not name a configuration. -/
theorem ne_of_isConfigurationName {name : String} (named : isConfigurationName name) :
    name ≠ ".." := by
  -- The test for endings is computed for this one name, which has none of those looked for.
  rintro rfl
  revert named
  decide

/-- The configurations in a directory are the names of configurations in it, in their order. -/
theorem configurationNames_eq_ok {tree : FileTree} {path : FilePath}
    {entries : List (String × FileTree)} (found : tree.find? path = some (.directory entries)) :
    ∃ names, tree.configurationNames path = .ok names ∧
      names.Perm ((entries.map (·.1)).filter isConfigurationName) ∧
      names.Pairwise (· ≤ ·) := by
  -- The names are filtered first and then sorted, which moves them about and drops none.
  refine ⟨_, by rw [configurationNames, found], List.mergeSort_perm _ _, ?_⟩
  -- The order of texts by their characters is the one that is sorted by.
  have sorted : List.Pairwise (fun a b => decide (a ≤ b))
      (((entries.map (·.1)).filter isConfigurationName).mergeSort fun a b => a ≤ b) := by
    refine List.pairwise_mergeSort (fun a b c first second => ?_) (fun a b => ?_) _
    · simp only [decide_eq_true_eq] at first second ⊢
      exact String.le_trans first second
    · simpa using String.le_total a b
  exact sorted.imp fun ordered => of_decide_eq_true ordered

section

variable {tree other : FileTree} {path : FilePath} {entries others : List (String × FileTree)}
  (found : tree.find? path = some (.directory entries))
  (foundOther : other.find? path = some (.directory others)) (perm : entries.Perm others)
include found foundOther perm

/-- The configurations in a directory do not depend on the order in which it lists them. -/
theorem configurationNames_eq_of_perm :
    tree.configurationNames path = other.configurationNames path := by
  -- Sorted lists of the same names are equal, and both directories list the same names.
  obtain ⟨names, listed, permNames, sorted⟩ := configurationNames_eq_ok found
  obtain ⟨namesOther, listedOther, permOther, sortedOther⟩ := configurationNames_eq_ok foundOther
  -- Only one order of the same names is their own.
  have same : names.Perm namesOther :=
    permNames.trans (((perm.map _).filter _).trans permOther.symm)
  rw [listed, listedOther,
    same.eq_of_pairwise (fun _ _ _ _ => String.le_antisymm) sorted sortedOther]

/-- The document under a name of a directory does not depend on the order of the names. -/
theorem document_child_eq_of_perm (distinct : (entries.map (·.1)).Nodup) {name : String}
    (named : isConfigurationName name) :
    tree.document (path.child name) = other.document (path.child name) := by
  -- Each name stands for one entry in either list, so it is found alike in both.
  have below := ne_of_isConfigurationName named
  unfold document
  rw [find?_child found below, find?_child foundOther below, lookup_eq_of_perm perm distinct]

end

end FileTree

namespace Library

/-- A directory loads by its files, once they have been listed. -/
theorem run_loadDirectory {tree : FileTree} {path : FilePath} {names : List String}
    (listed : tree.configurationNames path = .ok names) (library : Library) :
    (loadDirectory tree (some path)).run library =
      match (names.forM fun name => discard (loadFile tree (path.child name))).run library with
      | (.ok (), after) => (.ok names, after)
      | (.error error, after) => (.error error, after) := by
  -- Neither looking up the library nor listing the names changes anything.
  have unchanged : (get : Loading Library).run library = (.ok library, library) := rfl
  have taken : (liftM (.ok names : Except LoadError (List String)) : Loading (List String)).run
      library = (.ok names, library) := rfl
  rw [loadDirectory, Loading.run_bind, unchanged]
  dsimp only [Option.or]
  rw [Loading.run_bind, listed, taken]
  dsimp only
  rw [Loading.run_bind]
  rcases (names.forM fun name => discard (loadFile tree (path.child name))).run library
    with ⟨_ | _, after⟩ <;> rfl

/-- Files that load one after another are documents that are held together with those before. -/
theorem Unites.run_forM_loadFile {tree : FileTree} {path : FilePath} {library after : Library}
    {seen : List Token} (unites : library.Unites seen) {names : List String}
    (loaded : (names.forM fun name => discard (loadFile tree (path.child name))).run library =
      (.ok (), after)) :
    ∃ documents, List.Forall₂ (fun name document =>
        tree.document (path.child name) = .ok document) names documents ∧
      after.Unites (seen ++ documents) := by
  -- By induction on the names, with the documents seen so far held together in the library.
  induction names generalizing library seen with
  | nil =>
    cases loaded
    exact ⟨[], .nil, by rwa [List.append_nil]⟩
  | cons name rest ih =>
    rw [List.forM, Loading.run_bind, Loading.run_discard] at loaded
    rcases ran : (loadFile tree (path.child name)).run library with ⟨_ | document, between⟩ <;>
      rw [ran] at loaded
    · cases loaded
    · -- The file is a document that could be merged, and the others follow it.
      obtain ⟨read, merged⟩ := run_loadFile_eq_ok_iff.mp ran
      obtain ⟨_, rfl⟩ := run_merge_eq_ok_iff.mp merged
      obtain ⟨documents, each, held⟩ := ih (unites.adding _ document) loaded
      rw [List.append_assoc] at held
      exact ⟨document :: documents, .cons read each, held⟩

/-- Loading a directory does not depend on the order in which it lists its names. -/
theorem loadDirectory_eq_of_perm {tree other : FileTree} {path : FilePath}
    {entries others : List (String × FileTree)}
    (found : tree.find? path = some (.directory entries))
    (foundOther : other.find? path = some (.directory others)) (perm : entries.Perm others)
    (distinct : (entries.map (·.1)).Nodup) :
    loadDirectory tree (some path) = loadDirectory other (some path) := by
  -- Both go through the same sorted names, and each name leads to the same document.
  obtain ⟨names, listed, among, _⟩ := FileTree.configurationNames_eq_ok found
  -- Each of the names that are gone through leads to the same document.
  have each : ∀ name ∈ names,
      loadFile tree (path.child name) = loadFile other (path.child name) := by
    intro name member
    have configuration : isConfigurationName name :=
      (List.mem_filter.mp (among.mem_iff.mp member)).2
    unfold loadFile
    rw [FileTree.document_child_eq_of_perm found foundOther perm distinct configuration]
  have files : (names.forM fun name => discard (loadFile tree (path.child name))) =
      names.forM fun name => discard (loadFile other (path.child name)) :=
    Loading.forM_congr fun name member => congrArg discard (each name member)
  funext library
  have first := run_loadDirectory listed library
  rw [FileTree.configurationNames_eq_of_perm found foundOther perm] at listed
  have second := run_loadDirectory listed library
  rw [← files] at second
  exact first.trans second.symm

end Library

section

variable {tree other : FileTree} {path : FilePath} {entries others : List (String × FileTree)}
  (found : tree.find? path = some (.directory entries))
include found

/-- What a directory is loaded into is what its registry is built from. -/
theorem Registry.load_of_directory {names : List String} {library : Library}
    (loaded : (Library.loadDirectory tree (some path)).run (.empty none) = (.ok names, library))
    (carTypes : Token) :
    (Registry.load tree path carTypes).1 = ((Library.build carTypes).run library).1 := by
  -- What is at the path decides that the directory is loaded, and only then the registry is built.
  have directory : (tree.find? path).any FileTree.isDirectory := by
    rw [found]
    rfl
  have steps : (Library.loadAll tree path carTypes).run (.empty none) =
      (Library.build carTypes).run library := by
    rw [Library.loadAll, if_pos directory, Loading.run_bind, Loading.run_discard, loaded]
  unfold Registry.load
  rw [steps]
  rfl

/-- The registry of a directory does not depend on the order in which it lists its names. -/
theorem Registry.load_eq_of_perm (foundOther : other.find? path = some (.directory others))
    (perm : entries.Perm others) (distinct : (entries.map (·.1)).Nodup) (carTypes : Token) :
    Registry.load other path carTypes = Registry.load tree path carTypes := by
  -- To load a registry is to load the directory and to build from what it left.
  unfold Registry.load Library.loadAll
  rw [found, foundOther, Library.loadDirectory_eq_of_perm found foundOther perm distinct]
  rfl

end

namespace Library

/--
Loading takes the union of documents, in which the later ones win.

Of each key the merged document has the place where it came first and the token that came last, and
for each other time that it came the journal has a record.
The registry is the one of the sections so united, whatever was replaced in them.
A directory is loaded as the documents of its configurations in the order of their names, in
whatever order it lists them.
-/
theorem loading_unites_documents :
    (∀ directory (given : List (String × Token)) library,
      (given.forM fun entry => merge entry.1 entry.2).run (empty directory) = (.ok (), library) →
      let documents := given.map (·.2)
      library.document = Token.union documents ∧
      (∀ event ∈ library.journal, ∃ source part key, event = .overridden source part key) ∧
      library.journal.length + (Section.sounds.union documents).length +
          (Section.rules.union documents).length =
        (documents.flatMap Section.sounds.entriesIn).length +
          (documents.flatMap Section.rules.entriesIn).length ∧
      (∀ carTypes, ((build carTypes).run library).1 =
        (Registry.ofUnion documents carTypes).mapError .build) ∧
      ∀ before entry after other second, given = before ++ entry :: after →
        (∀ part : Section, part.AlikeBut (after.map (·.2)) entry.2 other) →
        ((before ++ (entry.1, other) :: after).forM fun entry => merge entry.1 entry.2).run
          (empty directory) = (.ok (), second) →
        second.document = library.document ∧
          ∀ carTypes, ((build carTypes).run second).1 = ((build carTypes).run library).1) ∧
    (∀ tree path entries names library, tree.find? path = some (.directory entries) →
      (loadDirectory tree (some path)).run (empty none) = (.ok names, library) →
      names.Perm ((entries.map (·.1)).filter isConfigurationName) ∧ names.Pairwise (· ≤ ·) ∧
      ∃ documents, List.Forall₂ (fun name document =>
          tree.document (path.child name) = .ok document) names documents ∧
        ∀ carTypes, (Registry.load tree path carTypes).1 =
          (Registry.ofUnion documents carTypes).mapError .build) ∧
    ∀ tree other path entries others carTypes, tree.find? path = some (.directory entries) →
      other.find? path = some (.directory others) → entries.Perm others →
      (entries.map (·.1)).Nodup →
      Registry.load other path carTypes = Registry.load tree path carTypes := by
  -- United documents give the first part, and loading a directory is a case of it.
  refine ⟨fun directory given library merged => ?_,
    fun tree path entries names library found loaded => ?_,
    fun tree other path entries others carTypes found foundOther perm distinct =>
      Registry.load_eq_of_perm found foundOther perm distinct carTypes⟩
  · have united : library.Unites (given.map (·.2)) := (unites_empty directory).run_forM_merge merged
    refine ⟨united.document_eq, united.overridden, ?_, united.run_build, ?_⟩
    · rw [← united.union .sounds, ← united.union .rules]
      exact united.recorded
    · rintro before entry after other second rfl alike again
      have unitedOther : second.Unites ((before ++ (entry.1, other) :: after).map (·.2)) :=
        (unites_empty directory).run_forM_merge again
      -- Neither section changes, and nothing else of the library is looked at.
      have same : ∀ part : Section, part.union ((before ++ (entry.1, other) :: after).map (·.2)) =
          part.union ((before ++ entry :: after).map (·.2)) := by
        intro part
        rw [List.map_append, List.map_append]
        exact (Section.union_of_alikeBut (alike part) _).symm
      refine ⟨?_, fun carTypes => ?_⟩
      · rw [united.document_eq, unitedOther.document_eq]
        simp only [Token.union, same]
      · rw [united.run_build, unitedOther.run_build]
        simp only [Registry.ofUnion, same]
  · obtain ⟨listed, configurations, among, sorted⟩ := FileTree.configurationNames_eq_ok found
    have steps := run_loadDirectory configurations (empty none)
    rw [loaded] at steps
    rcases ran : (listed.forM fun name => discard (loadFile tree (path.child name))).run
      (empty none) with ⟨_ | _, between⟩ <;> rw [ran] at steps <;> cases steps
    obtain ⟨documents, each, united⟩ := (unites_empty none).run_forM_loadFile ran
    refine ⟨among, sorted, documents, each, fun carTypes => ?_⟩
    rw [Registry.load_of_directory found loaded]
    exact united.run_build carTypes

/-- A rule that cannot be read is replaced by a later document as a horn is, and the files of a
directory load in the order of their names, though it lists them in another one. -/
theorem loading_unites_horns :
    let horn (file : String) : Token :=
      .mapping [(.text "type", .text "HornHit"), (.text "filename", .text file)]
    let later : Token := .mapping [
      (.text "rules", .mapping [(.text "hoot", .text "root"), (.text "root", .mapping [])]),
      (.text "sounds", .mapping [(.text "horn", horn "b.ogg")])]
    let first (root : Token) : Token := .mapping [
      (.text "sounds", .mapping [(.text "horn", horn "a.ogg"), (.text "bell", .null)]),
      (.text "rules", .mapping [(.text "root", root)])]
    let files : List (String × FileTree) :=
      [("b.YML", .file ⟨#[]⟩), ("notes.txt", .file ⟨#[33]⟩), ("a.json", .file ⟨#[123, 125]⟩)]
    (∃ library, ([("a", first (.list [])), ("b", later)].forM fun entry =>
        merge entry.1 entry.2).run (empty none) = (.ok (), library) ∧
      library.document = .mapping [
        (.text "sounds", .mapping [(.text "horn", horn "b.ogg"), (.text "bell", .null)]),
        (.text "rules", .mapping [(.text "root", .mapping []), (.text "hoot", .text "root")])] ∧
      library.journal.length = 2 ∧
      ∃ second, ([("a", first (.text "horn")), ("b", later)].forM fun entry =>
          merge entry.1 entry.2).run (empty none) = (.ok (), second) ∧
        second.document = library.document) ∧
    (∃ names library, (loadDirectory (.directory files) (some ⟨.relative, []⟩)).run (empty none) =
        (.ok names, library) ∧
      names.Perm ["b.YML", "a.json"] ∧ names.Pairwise (· ≤ ·)) ∧
    Registry.load (.directory files.reverse) ⟨.relative, []⟩ .null =
      Registry.load (.directory files) ⟨.relative, []⟩ .null := by
  -- The three parts are shown for two documents and for a directory of three files.
  intro horn later first files
  obtain ⟨merges, loads, relisted⟩ := loading_unites_documents
  refine ⟨⟨_, rfl, ?_⟩, ?_, ?_⟩
  · obtain ⟨united, _, _, _, replaced⟩ :=
      merges none [("a", first (.list [])), ("b", later)] _ rfl
    refine ⟨united, rfl, _, rfl, (replaced [] ("a", first (.list [])) [("b", later)]
      (first (.text "horn")) _ rfl ?_ rfl).1⟩
    -- Only the root differs, and the later document has a root again.
    rintro (_ | _)
    · exact List.forall₂_same.mpr fun entry _ => ⟨rfl, .inl rfl⟩
    · exact .cons ⟨rfl, .inr ⟨later, by simp, rfl⟩⟩ .nil
  · have listed : (FileTree.directory files).configurationNames ⟨.relative, []⟩ =
        .ok ["a.json", "b.YML"] := by
      -- The notes are left out whatever the case of the letters in the other endings.
      have configurations :
          (files.map (·.1)).filter isConfigurationName = ["b.YML", "a.json"] := by decide
      have found : (FileTree.directory files).find? ⟨.relative, []⟩ = some (.directory files) := rfl
      rw [FileTree.configurationNames, found]
      simp [configurations, List.mergeSort, List.MergeSort.Internal.splitInTwo]
    have succeeds : ((["a.json", "b.YML"].forM fun name =>
        discard (loadFile (.directory files) (FilePath.child ⟨.relative, []⟩ name))).run
        (empty none)).1.isOk := by decide +kernel
    have loaded := run_loadDirectory listed (empty none)
    rcases ran : (["a.json", "b.YML"].forM fun name =>
        discard (loadFile (.directory files) (FilePath.child ⟨.relative, []⟩ name))).run
        (empty none) with ⟨_ | _, library⟩ <;> rw [ran] at loaded succeeds
    · cases succeeds
    · obtain ⟨among, sorted, _⟩ := loads _ ⟨.relative, []⟩ files _ library rfl loaded
      exact ⟨_, library, loaded, among, sorted⟩
  · exact relisted (.directory files) (.directory files.reverse) ⟨.relative, []⟩ files files.reverse
      .null rfl rfl (List.reverse_perm files).symm (by decide)

end Library

end LocoSounds
