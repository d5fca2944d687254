import LocoSounds.Proofs.Library.Union

/-! New names beside a configuration that builds: what they must be for both together to build. -/

namespace LocoSounds

namespace NamedRules

section

variable {rules added : NamedRules}

/-- The names of rules are those of the first ones, then those of the others. -/
theorem names_append : names (rules ++ added) = rules.names ++ added.names := List.map_append

/-- A reference among rules of new names stands where other rules come before them. -/
theorem Refers.append (fresh : ∀ name ∈ added.names, name ∉ rules.names) {name other : String}
    (refers : added.Refers name other) : Refers (rules ++ added) name other := by
  -- The lookup passes the rules before, as none of them has the name.
  have new := fresh name refers.defined
  obtain ⟨defined, rule, found, inside⟩ := refers
  have absent : rules.lookup name = none :=
    Option.eq_none_iff_forall_ne_some.mpr fun rule found => new (mem_names_iff.mpr ⟨rule, found⟩)
  refine ⟨?_, rule, ?_, inside⟩
  · rw [names_append]
    exact List.mem_append_right _ defined
  · rw [List.lookup_append, absent, found]
    rfl

/-- Every reference among rules and others after them is one among the first, or comes from a name
that is not among those. -/
theorem Refers.of_append (closed : ∀ entry ∈ rules, ∀ name, (Rule.ref name).PartOf entry.2 →
      name ∈ rules.names) {name other : String} (refers : Refers (rules ++ added) name other) :
    rules.Refers name other ∨
      name ∉ rules.names ∧ (other ∈ rules.names ∨ added.Refers name other) := by
  -- The name stands for one of the first rules, or for what it stands for among the others.
  obtain ⟨defined, rule, found, inside⟩ := refers
  rw [List.lookup_append] at found
  cases here : rules.lookup name with
  | some first =>
    rw [here] at found
    cases found
    exact .inl ⟨closed _ (mem_of_lookup here) other inside, rule, here, inside⟩
  | none =>
    rw [here] at found
    refine .inr ⟨fun member => ?_, ?_⟩
    · obtain ⟨rule, found⟩ := mem_names_iff.mp member
      rw [here] at found
      cases found
    · rw [names_append] at defined
      exact (List.mem_append.mp defined).imp_right fun among => ⟨among, rule, found, inside⟩

/-- Rules of new names are free of cycles where they are so with other rules before them. -/
theorem Acyclic.of_append (acyclic : Acyclic (rules ++ added))
    (fresh : ∀ name ∈ added.names, name ∉ rules.names) : added.Acyclic := by
  -- A way among the new rules is one in both, where a cycle would be one as well.
  intro name back
  exact acyclic name (Relation.TransGen.mono (fun _ _ => Refers.append fresh) _ _ back)

/-- Rules that are free of cycles are so behind others that are and refer to none but themselves. -/
theorem Acyclic.append (acyclic : rules.Acyclic)
    (closed : ∀ entry ∈ rules, ∀ name, (Rule.ref name).PartOf entry.2 → name ∈ rules.names)
    (alone : added.Acyclic) : Acyclic (rules ++ added) := by
  -- No way leaves the first rules, so from each of them it ends as it did before.
  have within : ∀ name ∈ rules.names, Ends (rules ++ added) name := by
    intro name
    induction acyclic.ends name with
    | intro name _ ih =>
      refine fun member => Acc.intro name fun other refers => ?_
      obtain refers | ⟨out, _⟩ := refers.of_append closed
      · exact ih other refers refers.1
      · exact absurd member out
  -- From the others it stays among them, or comes to the first ones and ends there.
  have ends : ∀ name, Ends (rules ++ added) name := by
    intro name
    induction alone.ends name with
    | intro name _ ih =>
      refine Acc.intro name fun other refers => ?_
      obtain refers | ⟨_, inner | refers⟩ := refers.of_append closed
      · exact within other refers.1
      · exact within other inner
      · exact ih other refers
  exact acyclic_of_ends fun name _ => ends name

end

end NamedRules

/-- A name is a key of a document's section. -/
def Section.Defines (part : Section) (document : Token) (name : String) : Prop :=
  (part.entriesIn document).hasKey (.text name)

/-- Entries that their keys tell apart are put in where they are given. -/
theorem Entries.ofPairs_of_distinct {entries : Entries} (distinct : entries.Distinct) :
    ofPairs entries = entries := by
  -- Each entry goes to the end, as no entry before it has its key.
  induction entries using List.reverseRecOn with
  | nil => rfl
  | append_singleton given entry ih =>
    obtain ⟨before, _, apart⟩ := List.pairwise_append.mp distinct
    have fresh : hasKey given entry.1 = false :=
      List.any_eq_false.mpr fun other member => apart other member entry (.head _)
    rw [ofPairs_append, ih before, List.foldl_cons, List.foldl_nil, insert, fresh]
    rfl

namespace Section

/-- What is read from some entries and others after them is what is read from each. -/
theorem reads_append_iff {α : Type} {read : String → Token → Except ParseError α}
    {entries others : Entries} {named : List (String × α)} :
    Reads read (.mapping (entries ++ others)) named ↔
      ∃ first second, Reads read (.mapping entries) first ∧ Reads read (.mapping others) second ∧
        named = first ++ second := by
  -- Values stand beside entries, so as many of them as there are entries are those of the first.
  constructor
  · rintro (_ | ⟨each⟩)
    exact ⟨_, _, .mapping (List.forall₂_take_append _ _ _ each.flip).flip,
      .mapping (List.forall₂_drop_append _ _ _ each.flip).flip, (List.take_append_drop _ _).symm⟩
  · rintro ⟨first, second, _ | ⟨left⟩, _ | ⟨right⟩, rfl⟩
    exact .mapping (List.rel_append left right)

section

variable {α : Type} {read : String → Token → Except ParseError α} (part : Section)
  {document : Entries} {named : List (String × α)}

/-- A section is read where it can be merged, and as the entries that are merged. -/
theorem reads_getD_iff :
    Reads read (Entries.getD document part.name) named ↔
      part.FitIn document ∧ Reads read (.mapping (part.entriesIn (.mapping document))) named := by
  -- The section is a mapping, whose entries are the ones merged, or it is none.
  by_cases mapping : ∃ inner, Entries.getD document part.name = .mapping inner
  · obtain ⟨inner, found⟩ := mapping
    rw [entriesIn_of_getD found, found]
    exact ⟨fun reads => ⟨.inr ⟨inner, found⟩, reads⟩, And.right⟩
  · -- What is no mapping holds nothing, and is read only if it is absent.
    rw [entriesIn_of_not_mapping fun inner found => mapping ⟨inner, found⟩]
    constructor
    · intro reads
      generalize found : Entries.getD document part.name = token at reads
      cases reads with
      | absent => exact ⟨.inl found, .mapping .nil⟩
      | mapping each => exact absurd ⟨_, found⟩ mapping
    · rintro ⟨null | found, reads⟩
      · obtain _ | ⟨⟨⟩⟩ := reads
        rw [null]
        exact .absent
      · exact absurd found mapping

/-- The entries of two documents are read together where the section of each document is read. -/
theorem fitIn_and_reads_append_iff {additions : Entries} :
    ((part.FitIn document ∧ part.FitIn additions) ∧
        Reads read (.mapping (part.entriesIn (.mapping document) ++
          part.entriesIn (.mapping additions))) named) ↔
      ∃ first second, Reads read (Entries.getD document part.name) first ∧
        Reads read (Entries.getD additions part.name) second ∧ named = first ++ second := by
  -- To read a list of entries is to read its two parts, and each part fits on its own.
  simp only [reads_append_iff, reads_getD_iff]
  constructor
  · rintro ⟨⟨fit, fitNew⟩, first, second, left, right, rfl⟩
    exact ⟨first, second, ⟨fit, left⟩, ⟨fitNew, right⟩, rfl⟩
  · rintro ⟨first, second, ⟨fit, left⟩, ⟨fitNew, right⟩, rfl⟩
    exact ⟨⟨fit, fitNew⟩, first, second, left, right, rfl⟩

/-- The names read from a section are those that it defines. -/
theorem Reads.mem_names_iff (reads : Reads read (Entries.getD document part.name) named)
    {name : String} : name ∈ named.map (·.1) ↔ part.Defines (.mapping document) name := by
  -- The keys are texts, and texts are the same as keys where they are equal.
  have keys : (part.entriesIn (.mapping document)).hasKey (.text name) =
      (named.map fun value => Scalar.text value.1).any (·.sameKey (.text name)) := by
    rw [← ((reads_getD_iff part).mp reads).2.keys, List.any_map]
    rfl
  rw [Defines, keys]
  simp [Scalar.sameKey, Scalar.identity?]

/-- The keys of a document and those of one with new names tell all their entries apart. -/
theorem Reads.distinct_append {additions : Entries}
    (reads : Reads read (Entries.getD document part.name) named)
    (distinct : (part.entriesIn (.mapping document)).Distinct)
    (distinctNew : (part.entriesIn (.mapping additions)).Distinct)
    (fresh : ∀ name, part.Defines (.mapping additions) name →
      ¬ part.Defines (.mapping document) name) :
    Entries.Distinct
      (part.entriesIn (.mapping document) ++ part.entriesIn (.mapping additions)) := by
  -- Each document tells its own entries apart, so only keys of two documents have to be compared.
  refine List.pairwise_append.mpr ⟨distinct, distinctNew, fun entry member other among same => ?_⟩
  -- The first key is the text of a name, so the other one would be the same text.
  have key : entry.1 ∈ named.map fun value => Scalar.text value.1 :=
    ((reads_getD_iff part).mp reads).2.keys ▸ List.mem_map_of_mem member
  obtain ⟨value, _, text⟩ := List.mem_map.mp key
  refine fresh value.1 (List.any_eq_true.mpr ⟨other, among, ?_⟩)
    (List.any_eq_true.mpr ⟨entry, member, ?_⟩)
  · rwa [text, Scalar.sameKey_comm]
  · rw [text]
    obtain ⟨identity, known, _⟩ := Scalar.sameKey_iff.mp same
    exact Scalar.sameKey_iff.mpr ⟨identity, known, known⟩

end

/-- Documents whose keys tell all their entries apart are united one after another. -/
theorem union_of_distinct {part : Section} {documents : List Token}
    (distinct : Entries.Distinct (documents.flatMap part.entriesIn)) :
    part.union documents = documents.flatMap part.entriesIn := by
  -- What is united are all the entries in order, and no key among them replaces another.
  rw [← ofPairs_flatMap, Entries.ofPairs_of_distinct distinct]

end Section

/-- What is read from the sections of a document fits in with another document: each name in a rule
is defined in one of the two, each car type is listed but for the case of its letters, and no rule
comes back to itself along references between the document's own rules. -/
structure Registry.Fits (base additions : Entries) (carTypes : Token) (rules : NamedRules)
    (sounds : List (String × Sound)) : Prop where
  readRules : Section.Reads Rule.ofEntry (Entries.getD additions "rules") rules
  readSounds : Section.Reads Sound.ofEntry (Entries.getD additions "sounds") sounds
  refs : ∀ entry ∈ rules, ∀ name, (Rule.ref name).PartOf entry.2 →
    Section.rules.Defines (.mapping base) name ∨ Section.rules.Defines (.mapping additions) name
  sounds : ∀ entry ∈ rules, ∀ name, (Rule.sound name).PartOf entry.2 →
    Section.sounds.Defines (.mapping base) name ∨ Section.sounds.Defines (.mapping additions) name
  carTypes : ∀ entry ∈ rules, ∀ value inner, (Rule.when .carType value inner).PartOf entry.2 →
    ∃ listed, listedCarTypes? carTypes = some listed ∧
      ∃ known ∈ listed, lowercase value = lowercase known
  acyclic : rules.Acyclic

namespace Registry

section

variable {base additions : Entries} {carTypes : Token} {named rules : NamedRules}
  {voiced sounds : List (String × Sound)} {listed : List String}
  (readNamed : Section.Reads Rule.ofEntry (Entries.getD base "rules") named)
  (readVoiced : Section.Reads Sound.ofEntry (Entries.getD base "sounds") voiced)
  (lists : listedCarTypes? carTypes = some listed)
include readNamed readVoiced lists

/-- What fits in with a document fits together with what is read from it. -/
theorem Fits.coherent_append (fits : Fits base additions carTypes rules sounds)
    (coherent : Coherent named voiced listed) :
    Coherent (named ++ rules) (voiced ++ sounds) listed := by
  -- What was read before names what it did, and the names in the rest are those of either document.
  refine ⟨List.forall_mem_append.mpr ⟨?_, ?_⟩, List.forall_mem_append.mpr ⟨?_, ?_⟩,
    List.forall_mem_append.mpr ⟨coherent.carTypes, ?_⟩,
    coherent.acyclic.append coherent.refs fits.acyclic⟩
  · intro entry member name inside
    rw [List.map_append]
    exact List.mem_append_left _ (coherent.refs entry member name inside)
  · intro entry member name inside
    rw [List.map_append, List.mem_append, readNamed.mem_names_iff .rules,
      fits.readRules.mem_names_iff .rules]
    exact fits.refs entry member name inside
  · intro entry member name inside
    rw [List.map_append]
    exact List.mem_append_left _ (coherent.sounds entry member name inside)
  · intro entry member name inside
    rw [List.map_append, List.mem_append, readVoiced.mem_names_iff .sounds,
      fits.readSounds.mem_names_iff .sounds]
    exact fits.sounds entry member name inside
  · intro entry member value inner inside
    obtain ⟨types, same, known⟩ := fits.carTypes entry member value inner inside
    rw [lists] at same
    cases same
    exact known

/-- What fits together with what is read from a document fits in with the document. -/
theorem fits_of_coherent
    (readRules : Section.Reads Rule.ofEntry (Entries.getD additions "rules") rules)
    (readSounds : Section.Reads Sound.ofEntry (Entries.getD additions "sounds") sounds)
    (coherent : Coherent (named ++ rules) (voiced ++ sounds) listed)
    (fresh : ∀ name ∈ rules.names, name ∉ named.names) :
    Fits base additions carTypes rules sounds where
  readRules := readRules
  readSounds := readSounds
  refs entry member name inside := by
    -- Whatever the new rules name is named in the joint registry, which defines what either does.
    rw [← readNamed.mem_names_iff .rules, ← readRules.mem_names_iff .rules,
      ← List.mem_append, ← List.map_append]
    exact coherent.refs entry (List.mem_append_right _ member) name inside
  sounds entry member name inside := by
    rw [← readVoiced.mem_names_iff .sounds, ← readSounds.mem_names_iff .sounds,
      ← List.mem_append, ← List.map_append]
    exact coherent.sounds entry (List.mem_append_right _ member) name inside
  carTypes entry member value inner inside :=
    ⟨listed, lists, coherent.carTypes entry (List.mem_append_right _ member) value inner inside⟩
  acyclic := coherent.acyclic.of_append fresh

end

/-- Documents whose keys tell all their entries apart are accepted in any order or in none. -/
theorem exists_ofUnion_of_perm {documents others : List Token} {carTypes : Token}
    (distinct : ∀ part : Section, Entries.Distinct (documents.flatMap part.entriesIn))
    (perm : documents.Perm others)
    (accepted : ∃ registry, ofUnion documents carTypes = .ok registry) :
    ∃ registry, ofUnion others carTypes = .ok registry := by
  -- Either section has the same entries in another order, which changes nothing for the registry.
  have reordered : ∀ part : Section, Section.Reordered (.mapping (part.union documents))
      (.mapping (part.union others)) := by
    intro part
    have perm := perm.flatMap_right part.entriesIn
    rw [Section.union_of_distinct (distinct part),
      Section.union_of_distinct ((distinct part).of_perm perm)]
    exact .mapping (distinct part) perm
  obtain ⟨registry, built⟩ := accepted
  obtain ⟨other, builtOther, _⟩ := build_of_reordered (reordered .rules) (reordered .sounds) built
  exact ⟨other, builtOther⟩

/-- A document is accepted behind one that is accepted alone where it fits in with it. -/
theorem exists_ofUnion_iff_fits {base additions : Entries} {carTypes : Token}
    (accepted : ∃ registry, ofDocument (.mapping base) carTypes = .ok registry)
    (distinct : ∀ part : Section,
      Entries.Distinct ([.mapping base, .mapping additions].flatMap part.entriesIn))
    (fresh : ∀ name, Section.rules.Defines (.mapping additions) name →
      ¬ Section.rules.Defines (.mapping base) name) :
    ((∀ part : Section, part.FitIn base ∧ part.FitIn additions) ∧
        ∃ registry, ofUnion [.mapping base, .mapping additions] carTypes = .ok registry) ↔
      ∃ rules sounds, Fits base additions carTypes rules sounds := by
  -- With keys told apart the union is one document after the other, read part by part.
  obtain ⟨named, voiced, listed, readNamed, readVoiced, lists, coherent⟩ :=
    exists_build_eq_ok_iff.mp accepted
  unfold ofUnion
  rw [Section.union_of_distinct (distinct .rules), Section.union_of_distinct (distinct .sounds),
    exists_build_eq_ok_iff]
  simp only [List.flatMap_cons, List.flatMap_nil, List.append_nil]
  constructor
  · -- What was read from both is what was read from each, one after the other.
    rintro ⟨fit, _, _, types, readBothRules, readBothSounds, listsTypes, together⟩
    obtain ⟨first, rules, readFirst, readRules, rfl⟩ :=
      (Section.fitIn_and_reads_append_iff .rules).mp ⟨fit .rules, readBothRules⟩
    obtain ⟨second, sounds, readSecond, readSounds, rfl⟩ :=
      (Section.fitIn_and_reads_append_iff .sounds).mp ⟨fit .sounds, readBothSounds⟩
    have new : ∀ name ∈ NamedRules.names rules, name ∉ NamedRules.names first :=
      fun name added known => fresh name ((readRules.mem_names_iff .rules).mp added)
        ((readFirst.mem_names_iff .rules).mp known)
    exact ⟨rules, sounds,
      fits_of_coherent readFirst readSecond listsTypes readRules readSounds together new⟩
  · rintro ⟨rules, sounds, fits⟩
    obtain ⟨fitRules, readBothRules⟩ := (Section.fitIn_and_reads_append_iff .rules).mpr
      ⟨named, rules, readNamed, fits.readRules, rfl⟩
    obtain ⟨fitSounds, readBothSounds⟩ := (Section.fitIn_and_reads_append_iff .sounds).mpr
      ⟨voiced, sounds, readVoiced, fits.readSounds, rfl⟩
    refine ⟨fun part => ?_, _, _, listed, readBothRules, readBothSounds, lists,
      fits.coherent_append readNamed readVoiced lists coherent⟩
    cases part with
    | sounds => exact fitSounds
    | rules => exact fitRules

end Registry

/-- A mapping can be merged where each of its sections can. -/
theorem Token.mergeable_mapping_iff {entries : Entries} :
    (Token.mapping entries).Mergeable ↔ ∀ part : Section, part.FitIn entries := by
  -- Only a mapping has entries, and these are its own.
  constructor
  · rintro ⟨_, same, fit⟩
    cases same
    exact fit
  · intro fit
    exact ⟨entries, rfl, fit⟩

namespace Library

/-- Documents merged one after another are all merged where each of them can be. -/
theorem exists_run_forM_merge_iff (library : Library) {given : List (String × Token)} :
    (∃ after, (given.forM fun entry => merge entry.1 entry.2).run library = (.ok (), after)) ↔
      ∀ entry ∈ given, entry.2.Mergeable := by
  -- By induction on the documents, from whatever library they are merged into.
  induction given generalizing library with
  | nil => exact ⟨fun _ => nofun, fun _ => ⟨library, rfl⟩⟩
  | cons entry rest ih =>
    -- A document that is refused ends the run, and no other one is merged after it.
    rw [List.forM, Loading.run_bind, List.forall_mem_cons]
    obtain mergeable | ⟨error, refused⟩ := entry.2.mergeable_or_refused entry.1
    · rw [run_merge_of_mergeable mergeable]
      exact (ih _).trans (and_iff_right mergeable).symm
    · rw [run_merge_of_refused refused]
      constructor
      · rintro ⟨_, merged⟩
        cases (Prod.mk.inj merged).1
      · rintro ⟨mergeable, _⟩
        -- No document can be merged and is refused.
        have merged := run_merge_of_mergeable mergeable entry.1 library
        rw [run_merge_of_refused refused] at merged
        cases (Prod.mk.inj merged).1

/-- Documents merged into a library without entries and then built are accepted where each of them
can be merged and their union is accepted. -/
theorem exists_run_merge_build_iff {given : List (String × Token)} {directory : Option FilePath}
    {carTypes : Token} :
    (∃ registry, ((do
      given.forM fun entry => merge entry.1 entry.2
      build carTypes).run (empty directory)).1 = .ok registry) ↔
      (∀ entry ∈ given, entry.2.Mergeable) ∧
        ∃ registry, Registry.ofUnion (given.map (·.2)) carTypes = .ok registry := by
  -- Merging succeeds as a whole or not, and building looks at nothing but what was merged.
  rw [← exists_run_forM_merge_iff (empty directory), Loading.run_bind]
  rcases ran : (given.forM fun entry => merge entry.1 entry.2).run (empty directory)
    with ⟨_ | ⟨⟩, after⟩
  · constructor
    · rintro ⟨_, accepted⟩
      cases accepted
    · rintro ⟨⟨_, merged⟩, _⟩
      cases (Prod.mk.inj merged).1
  · dsimp only
    rw [((unites_empty directory).run_forM_merge ran).run_build]
    simp

/--
Adding new names to a configuration that builds cannot break it.

Beside it, whichever of the two is merged first, a document of new names is accepted exactly where
its own entries can be read, name what one of the two defines and car types that are listed, and do
not come back to themselves along references among them.
-/
theorem new_names_are_accepted_iff {base additions : Entries} {carTypes : Token}
    (accepted : ∃ registry, Registry.ofDocument (.mapping base) carTypes = .ok registry)
    (distinct : ∀ part : Section, (part.entriesIn (.mapping base)).Distinct)
    (distinctNew : ∀ part : Section, (part.entriesIn (.mapping additions)).Distinct)
    (fresh : ∀ (part : Section) name, part.Defines (.mapping additions) name →
      ¬ part.Defines (.mapping base) name)
    (source added : String) (given : List (String × Token))
    (either : given.Perm [(source, .mapping base), (added, .mapping additions)])
    (directory : Option FilePath) :
    (∃ registry, ((do
      given.forM fun entry => merge entry.1 entry.2
      build carTypes).run (empty directory)).1 = .ok registry) ↔
      ∃ rules sounds, Registry.Fits base additions carTypes rules sounds := by
  -- No key comes twice, so the order of the documents is that of entries and nothing else.
  have distinctBoth : ∀ part : Section,
      Entries.Distinct ([.mapping base, .mapping additions].flatMap part.entriesIn) := by
    obtain ⟨_, _, _, readNamed, readVoiced, _⟩ := Registry.exists_build_eq_ok_iff.mp accepted
    intro part
    rw [List.flatMap_cons, List.flatMap_singleton]
    cases part with
    | sounds => exact readVoiced.distinct_append .sounds (distinct _) (distinctNew _) (fresh _)
    | rules => exact readNamed.distinct_append .rules (distinct _) (distinctNew _) (fresh _)
  have documents : (given.map (·.2)).Perm [.mapping base, .mapping additions] := either.map (·.2)
  have distinctGiven : ∀ part : Section,
      Entries.Distinct ((given.map (·.2)).flatMap part.entriesIn) :=
    fun part => (distinctBoth part).of_perm (documents.symm.flatMap_right _)
  rw [exists_run_merge_build_iff,
    ← Registry.exists_ofUnion_iff_fits accepted distinctBoth (fresh .rules)]
  refine and_congr ?_ ⟨Registry.exists_ofUnion_of_perm distinctGiven documents,
    Registry.exists_ofUnion_of_perm distinctBoth documents.symm⟩
  -- Both documents can be merged where all four of their sections can.
  simp only [either.mem_iff, List.mem_cons, List.not_mem_nil, or_false, forall_eq_or_imp, forall_eq,
    Token.mergeable_mapping_iff, forall_and]

/-- Bells that refer to the horns of another document are accepted, merged before them or after. -/
theorem new_bells_are_accepted :
    let base : Entries := [
      (.text "rules", .mapping [
        (.text "root", .text "horns"),
        (.text "horns",
          .mapping [(.text "type", .text "AllOf"), (.text "sounds", .list [.text "horn"])])]),
      (.text "sounds", .mapping [
        (.text "horn",
          .mapping [(.text "type", .text "HornHit"), (.text "filename", .text "a.ogg")])])]
    let additions : Entries := [
      (.text "sounds", .mapping [
        (.text "bell",
          .mapping [(.text "type", .text "Bell"), (.text "filename", .text "b.ogg")])]),
      (.text "rules", .mapping [
        (.text "bells", .mapping [(.text "type", .text "AllOf"),
          (.text "rules", .list [.text "root"]), (.text "sounds", .list [.text "bell"])])])]
    let first : String × Token := ("a", .mapping base)
    let second : String × Token := ("b", .mapping additions)
    (∃ registry, ((do
      [first, second].forM fun entry => merge entry.1 entry.2
      build .null).run (empty none)).1 = .ok registry) ∧
    ∃ registry, ((do
      [second, first].forM fun entry => merge entry.1 entry.2
      build .null).run (empty none)).1 = .ok registry := by
  -- Both orders of the two documents are permutations that the general result allows.
  intro base additions first second
  have accepted : ∃ registry, Registry.ofDocument (.mapping base) .null = .ok registry :=
    ⟨_, Registry.build_horns⟩
  have distinct : ∀ part : Section, (part.entriesIn (.mapping base)).Distinct := by
    rintro (_ | _)
    · exact List.pairwise_singleton _ _
    · exact .cons (List.forall_mem_singleton.mpr (by decide)) (List.pairwise_singleton _ _)
  have distinctNew : ∀ part : Section, (part.entriesIn (.mapping additions)).Distinct := by
    rintro (_ | _) <;> exact List.pairwise_singleton _ _
  have fits : Registry.Fits base additions .null [("bells", .allOf [.ref "root", .sound "bell"])]
      [("bell", ⟨"bell", .bell, ["b.ogg"], none, none, none, none, none⟩)] := by
    refine ⟨.mapping (.cons ⟨rfl, rfl⟩ .nil), .mapping (.cons ⟨rfl, by decide +kernel⟩ .nil),
      List.forall_mem_singleton.mpr fun name inside => ?_,
      List.forall_mem_singleton.mpr fun name inside => ?_, by simp, ?_⟩
    · obtain rfl : name = "root" := by simpa using inside
      exact .inl rfl
    · obtain rfl : name = "bell" := by simpa using inside
      exact .inr rfl
    · -- The root is no rule of the new document, so no reference leads on from the bells.
      rw [← NamedRules.findCycle?_eq_none_iff]
      simp [NamedRules.findCycle?, NamedRules.searchFrom, NamedRules.search, NamedRules.refsOf,
        NamedRules.names, Rule.refs, Rule.refsOfAll]
  have fresh : ∀ (part : Section) name, part.Defines (.mapping additions) name →
      ¬ part.Defines (.mapping base) name := by
    rintro (_ | _) name new old
    · obtain rfl := List.mem_singleton.mp ((fits.readSounds.mem_names_iff .sounds).mpr new)
      cases old
    · obtain rfl := List.mem_singleton.mp ((fits.readRules.mem_names_iff .rules).mpr new)
      cases old
  have either := new_names_are_accepted_iff accepted distinct distinctNew fresh "a" "b"
  exact ⟨(either _ (.refl _) none).mpr ⟨_, _, fits⟩, (either _ (.swap _ _ _) none).mpr ⟨_, _, fits⟩⟩

end Library

end LocoSounds
