import LocoSounds.Proofs.Registry.Build
import LocoSounds.Proofs.Rule.Grammar

/-! Where in a document the faults of a registry are said to be. -/

namespace LocoSounds

/-- Steps lead from a token to a part of it. -/
inductive Token.Leads : Token → List Step → Token → Prop where
  | here {token : Token} : Leads token [] token
  | key {entries : Entries} {name : String} {inner part : Token} {steps : List Step}
      (member : (.text name, inner) ∈ entries) (onward : Leads inner steps part) :
      Leads (.mapping entries) (.key name :: steps) part
  | item {items : List Token} {position : Nat} {inner part : Token} {steps : List Step}
      (found : items[position]? = some inner) (onward : Leads inner steps part) :
      Leads (.list items) (.item position :: steps) part

/-- No step leads further from a scalar. -/
@[simp] theorem Token.leads_scalar_iff {value : Scalar} {part : Token} {steps : List Step} :
    (Token.scalar value).Leads steps part ↔ steps = [] ∧ part = .scalar value := by
  -- A scalar has no parts but itself.
  constructor
  · rintro ⟨⟩
    exact ⟨rfl, rfl⟩
  · rintro ⟨rfl, rfl⟩
    exact .here

/-- Steps from a list lead to itself, or on from one of its items. -/
@[simp] theorem Token.leads_list_iff {items : List Token} {part : Token} {steps : List Step} :
    (Token.list items).Leads steps part ↔ steps = [] ∧ part = .list items ∨
      ∃ position inner rest, items[position]? = some inner ∧ inner.Leads rest part ∧
        steps = .item position :: rest := by
  -- The first step, if there is one, is to an item.
  constructor
  · rintro (_ | _ | ⟨found, onward⟩)
    · exact .inl ⟨rfl, rfl⟩
    · exact .inr ⟨_, _, _, found, onward, rfl⟩
  · rintro (⟨rfl, rfl⟩ | ⟨position, inner, rest, found, onward, rfl⟩)
    · exact .here
    · exact .item found onward

/-- Steps from a mapping lead to itself, or on from what stands under one of its names. -/
@[simp] theorem Token.leads_mapping_iff {entries : Entries} {part : Token} {steps : List Step} :
    (Token.mapping entries).Leads steps part ↔ steps = [] ∧ part = .mapping entries ∨
      ∃ name inner rest, (.text name, inner) ∈ entries ∧ inner.Leads rest part ∧
        steps = .key name :: rest := by
  -- The first step, if there is one, is to what stands under a name.
  constructor
  · rintro (_ | ⟨member, onward⟩ | _)
    · exact .inl ⟨rfl, rfl⟩
    · exact .inr ⟨_, _, _, member, onward, rfl⟩
  · rintro (⟨rfl, rfl⟩ | ⟨name, inner, rest, member, onward, rfl⟩)
    · exact .here
    · exact .key member onward

/-- Steps from a token that point at one of the rules it holds. -/
inductive Token.Points (token : Token) : List Step → Rule → Prop where
  /-- Steps point at the rule that the token there denotes. -/
  | entry {part : Token} {steps : List Step} {rule : Rule} (leads : token.Leads steps part)
      (denotes : Denotes part rule) : Points token steps rule
  /-- A sound named in the list `sounds` is pointed at under `rules`, at a position that goes on from
  those of the rules there. -/
  | sound {entries : Entries} {tag name : String} {items names : List Token} {position : Nat}
      {steps : List Step} (leads : token.Leads steps (.mapping entries))
      (type : entries.Says "type" tag) (form : lowercase tag = "allof")
      (rules : entries.Lists "rules" items) (sounds : entries.Lists "sounds" names)
      (named : names[position]? = some (.scalar (.text name))) :
      Points token (steps ++ [.key "rules", .item (items.length + position)]) (.sound name)

/-- What is pointed at from a value is pointed at from the mapping around it. -/
theorem Token.Points.key {entries : Entries} {name : String} {inner : Token} {steps : List Step}
    {rule : Rule} (member : (.text name, inner) ∈ entries) (points : inner.Points steps rule) :
    (Token.mapping entries).Points (.key name :: steps) rule := by
  -- Both kinds of pointing start with steps that lead somewhere, so one more step is put in front.
  cases points with
  | entry leads denotes => exact .entry (.key member leads) denotes
  | sound leads type form rules sounds named =>
    exact .sound (.key member leads) type form rules sounds named

/-- What is pointed at from an item is pointed at from the list around it. -/
theorem Token.Points.item {items : List Token} {position : Nat} {inner : Token}
    {steps : List Step} {rule : Rule} (found : items[position]? = some inner)
    (points : inner.Points steps rule) :
    (Token.list items).Points (.item position :: steps) rule := by
  -- Both kinds of pointing start with steps that lead somewhere, so one more step is put in front.
  cases points with
  | entry leads denotes => exact .entry (.item found leads) denotes
  | sound leads type form rules sounds named =>
    exact .sound (.item found leads) type form rules sounds named

/-- The place that steps from a location come to. -/
def Location.through (location : Location) (steps : List Step) : Location :=
  { location with steps := location.steps ++ steps }

/-- No steps leave a location as it is. -/
@[simp] theorem Location.through_nil (location : Location) : location.through [] = location := by
  -- There is nothing to be appended to the steps.
  simp [through]

/-- A name and then some steps are followed as one list of steps. -/
@[simp] theorem Location.key_through (location : Location) (name : String) (steps : List Step) :
    (location.key name).through steps = location.through (.key name :: steps) := by
  -- To append a name and then the steps is to append them together.
  simp [through, key]

/-- A position and then some steps are followed as one list of steps. -/
@[simp] theorem Location.item_through (location : Location) (position : Nat) (steps : List Step) :
    (location.item position).through steps = location.through (.item position :: steps) := by
  -- To append a position and then the steps is to append them together.
  simp [through, item]

/-- A rule that a registry cannot apply, itself and not for the rules inside it, and why. -/
inductive Registry.Rejects (registry : Registry) : Rule → ResolutionFault → Prop where
  | ref {name : String} (undefined : registry.rule? name = none) :
      Rejects registry (.ref name) (.noSuchRule name)
  | sound {name : String} (undefined : registry.sound? name = none) :
      Rejects registry (.sound name) (.noSuchSound name)
  | carType {value : String} {rule : Rule} (unknown : lowercase value ∉ registry.carTypes) :
      Rejects registry (.when .carType value rule) (.unknownCarType value)

/-- The fault of an error lies in a token at a location: some rule is rejected for it, at which the
steps from that location to the one of the error point in the token. -/
def ResolutionError.LiesIn (error : ResolutionError) (registry : Registry) (location : Location)
    (token : Token) : Prop :=
  ∃ steps rule, error.location = location.through steps ∧ registry.Rejects rule error.fault ∧
    token.Points steps rule

section

variable {registry : Registry} {location : Location} {error : ResolutionError}

/-- The fault of the rule that a token denotes lies in the token. -/
theorem ResolutionError.LiesIn.here {token : Token} {rule : Rule} (denotes : Denotes token rule)
    (place : error.location = location) (rejects : registry.Rejects rule error.fault) :
    error.LiesIn registry location token :=
  ⟨[], rule, by rw [place, Location.through_nil], rejects, .entry .here denotes⟩

/-- A fault in what stands under a name lies in the mapping around it. -/
theorem ResolutionError.LiesIn.key {entries : Entries} {name : String} {inner : Token}
    (member : (.text name, inner) ∈ entries)
    (lies : error.LiesIn registry (location.key name) inner) :
    error.LiesIn registry location (.mapping entries) := by
  -- The steps to the fault are led up to by one more, through the name.
  obtain ⟨steps, rule, place, rejects, points⟩ := lies
  rw [Location.key_through] at place
  exact ⟨_, rule, place, rejects, points.key member⟩

/-- A fault in an item lies in the list around it. -/
theorem ResolutionError.LiesIn.item {items : List Token} {position : Nat} {inner : Token}
    (found : items[position]? = some inner)
    (lies : error.LiesIn registry (location.item position) inner) :
    error.LiesIn registry location (.list items) := by
  -- The steps to the fault are led up to by one more, through the position.
  obtain ⟨steps, rule, place, rejects, points⟩ := lies
  rw [Location.item_through] at place
  exact ⟨_, rule, place, rejects, points.item found⟩

end

namespace Rule

variable {registry : Registry} {location : Location} {error : ResolutionError}

/-- Where rules of a list do not pass, one of them does not pass at its own place. -/
theorem failing_of_resolveAll {rules : List Rule} {position : Nat}
    (failed : resolveAll registry location position rules = .error error) :
    ∃ (index : Nat) (rule : Rule), rules[index]? = some rule ∧
      rule.resolve registry (location.item (position + index)) = .error error := by
  -- By induction on the rules, whose positions are counted from where the list starts.
  induction rules generalizing position with
  | nil => cases failed
  | cons rule rest ih =>
    obtain first | ⟨_, _, later⟩ := bind_eq_error_iff.mp failed
    · exact ⟨0, rule, rfl, first⟩
    · obtain ⟨index, rule, found, failed⟩ := ih later
      refine ⟨index + 1, rule, found, ?_⟩
      rwa [Nat.add_left_comm, Nat.add_comm]

/-- Beside a rule at an index of a list stands the token that it was read from. -/
theorem exists_item_of_forall₂ {items : List Token} {rules : List Rule} {index : Nat} {rule : Rule}
    (each : List.Forall₂ Denotes items rules) (found : rules[index]? = some rule) :
    ∃ item, items[index]? = some item ∧ Denotes item rule := by
  -- The lists stand side by side, so at each index both have something or neither has.
  have related := rel_getElem?_of_forall₂ each index
  rw [found] at related
  cases written : items[index]? with
  | none =>
    rw [written] at related
    cases related
  | some item =>
    rw [written] at related
    cases related with
    | some denotes => exact ⟨item, rfl, denotes⟩

/-- Alternatives pass as the rules in them do. -/
theorem resolveChoices_eq {choices : List (Binary64 × Rule)} {position : Nat} :
    resolveChoices registry location position choices =
      resolveAll registry location position (choices.map (·.2)) := by
  -- By induction on the alternatives; weights take no part in it.
  induction choices generalizing position with
  | nil => rfl
  | cons choice rest ih => rw [resolveChoices, ih, List.map_cons, resolveAll]

/-- A reference is at fault itself. -/
theorem rejects_of_resolve_ref {name : String}
    (failed : (Rule.ref name).resolve registry location = .error error) :
    error.location = location ∧ registry.Rejects (.ref name) error.fault := by
  -- The name is looked up among the rules, and only a failing lookup gives an error.
  rw [resolve] at failed
  split at failed
  · cases failed
  · rename_i undefined
    cases failed
    exact ⟨rfl, .ref (by simpa using undefined)⟩

/-- A sound is at fault itself. -/
theorem rejects_of_resolve_sound {name : String}
    (failed : (Rule.sound name).resolve registry location = .error error) :
    error.location = location ∧ registry.Rejects (.sound name) error.fault := by
  -- The name is looked up among the sounds, and only a failing lookup gives an error.
  rw [resolve] at failed
  split at failed
  · cases failed
  · rename_i undefined
    cases failed
    exact ⟨rfl, .sound (by simpa using undefined)⟩

/-- Where a rule does not pass, the fault lies in any token that denotes the rule. -/
theorem liesIn_of_resolve {token : Token} {rule : Rule} (denotes : Denotes token rule)
    (failed : rule.resolve registry location = .error error) :
    error.LiesIn registry location token := by
  -- The walk goes down the tree as the reader went down the token, but for the sounds of a mapping.
  induction rule generalizing location token with
  | allOf rules ih =>
    rw [resolve] at failed
    obtain ⟨index, rule, found, here⟩ := failing_of_resolveAll failed
    rw [Nat.zero_add] at here
    cases denotes with
    | @allOf entries tag items rules names type form lists each sounds =>
      rcases Nat.lt_or_ge index rules.length with among | beyond
      · -- One of the rules that the mapping lists does not pass.
        rw [List.getElem?_append_left among] at found
        obtain ⟨item, written, inside⟩ := exists_item_of_forall₂ each found
        have listed : entries.get? "rules" = some (.list items) :=
          lists.found_of_mem (List.mem_of_getElem? written)
        have lies : error.LiesIn registry ((location.key "rules").item index) item :=
          ih rule (List.mem_append_left _ (List.mem_of_getElem? found)) inside here
        exact (lies.item written).key (Entries.mem_of_get? listed)
      · -- One of the sounds does not pass, which come after the rules in the tree.
        obtain ⟨position, rfl⟩ := Nat.exists_eq_add_of_le beyond
        rw [List.getElem?_append_right beyond, Nat.add_sub_cancel_left, List.getElem?_map] at found
        obtain ⟨name, named, rfl⟩ := Option.map_eq_some_iff.mp found
        obtain ⟨place, rejects⟩ := rejects_of_resolve_sound here
        have points : (Token.mapping entries).Points
            ([] ++ [.key "rules", .item (items.length + position)]) (.sound name) :=
          .sound .here type form lists sounds (by rw [List.getElem?_map, named]; rfl)
        refine ⟨_, _, ?_, rejects, points⟩
        rw [place, each.length_eq, List.nil_append, ← Location.key_through, ← Location.item_through,
          Location.through_nil]
  | oneOf choices ih =>
    rw [resolve, resolveChoices_eq] at failed
    obtain ⟨index, rule, found, here⟩ := failing_of_resolveAll failed
    rw [Nat.zero_add] at here
    rw [List.getElem?_map] at found
    obtain ⟨choice, chosen, rfl⟩ := Option.map_eq_some_iff.mp found
    cases denotes with
    | oneOf type form listed some each weighs =>
      obtain ⟨_, among⟩ := List.getElem?_zip_eq_some.mp chosen
      obtain ⟨item, written, inside⟩ := exists_item_of_forall₂ each among
      have lies : error.LiesIn registry ((location.key "rules").item index) item :=
        ih choice (List.mem_of_getElem? chosen) inside here
      exact (lies.item written).key (Entries.mem_of_get? listed)
  | when property value rule ih =>
    rw [resolve] at failed
    split at failed
    · -- The car type is looked at before the rule under the condition.
      rename_i unknown
      obtain ⟨rfl, unknown⟩ := unknown
      cases failed
      exact .here denotes rfl (.carType unknown)
    · cases denotes with
      | when type form tests named wanted found inside =>
        exact (ih inside failed).key (Entries.mem_of_get? found)
  | ref name =>
    obtain ⟨place, rejects⟩ := rejects_of_resolve_ref failed
    exact .here denotes place rejects
  | sound name =>
    obtain ⟨place, rejects⟩ := rejects_of_resolve_sound failed
    exact .here denotes place rejects

end Rule

namespace Registry

/-- A registry holds what is read from two sections and from the car types listed, whether it
resolves or not. -/
structure ReadFrom (registry : Registry) (rules sounds carTypes : Token) : Prop where
  rules : Section.Reads Rule.ofEntry rules registry.rules
  sounds : Section.Reads Sound.ofEntry sounds registry.sounds
  carTypes : ∃ listed, listedCarTypes? carTypes = some listed ∧
    registry.carTypes = listed.map lowercase

/-- Where named rules do not pass, one of them does not pass at its own place. -/
theorem failing_of_resolveRules {registry : Registry} {rules : NamedRules}
    {error : ResolutionError} (failed : registry.resolveRules rules = .error error) :
    ∃ entry ∈ rules,
      entry.2.resolve registry ((Location.start "rules").key entry.1) = .error error := by
  -- By induction on the named rules; the first that does not pass is the one that is reported.
  induction rules with
  | nil => cases failed
  | cons entry rest ih =>
    obtain first | ⟨_, _, later⟩ := bind_eq_error_iff.mp failed
    · exact ⟨entry, by simp, first⟩
    · obtain ⟨entry, member, failed⟩ := ih later
      exact ⟨entry, .tail _ member, failed⟩

/-- Where a registry does not pass for another reason than a cycle, one of its rules does not. -/
theorem failing_of_resolve {registry : Registry} {error : ResolutionError}
    (failed : registry.resolve = .error error) (noCycle : ∀ names, error.fault ≠ .cycle names) :
    ∃ entry ∈ registry.rules,
      entry.2.resolve registry ((Location.start "rules").key entry.1) = .error error := by
  -- All rules are walked before cycles are looked for, so the error comes from a walk.
  obtain walked | ⟨_, _, searched⟩ := bind_eq_error_iff.mp failed
  · exact failing_of_resolveRules walked
  · split at searched
    · cases searched
      exact absurd rfl (noCycle _)
    · cases searched

/-- What is not built for a fault of resolution was read, and does not pass. -/
theorem readFrom_of_build {rules sounds carTypes : Token} {error : ResolutionError}
    (failed : build rules sounds carTypes = .error (.resolution error)) :
    ∃ registry : Registry, registry.ReadFrom rules sounds carTypes ∧
      registry.resolve = .error error := by
  -- The stages before resolution give errors of other kinds, so they must have succeeded.
  obtain parsing | ⟨⟨named, voiced⟩, parsed, failed⟩ := bind_eq_error_iff.mp failed
  · obtain ⟨_, _, same⟩ := mapError_eq_error_iff.mp parsing
    cases same
  obtain ⟨_, readRules, parsed⟩ := bind_eq_ok_iff.mp (mapError_eq_ok_iff.mp parsed)
  obtain ⟨_, readSounds, same⟩ := bind_eq_ok_iff.mp parsed
  cases same
  obtain listing | ⟨types, known, failed⟩ := bind_eq_error_iff.mp failed
  · unfold readCarTypes at listing
    split at listing
    · cases listing
    · split at listing
      · split at listing <;> cases listing
      · cases listing
  obtain resolving | ⟨_, _, done⟩ := bind_eq_error_iff.mp failed
  · obtain ⟨_, failed, same⟩ := mapError_eq_error_iff.mp resolving
    cases same
    exact ⟨_, ⟨ofSection_rules_eq_ok_iff.mp readRules, ofSection_sounds_eq_ok_iff.mp readSounds,
      readCarTypes_eq_ok_iff.mp known⟩, failed⟩
  · cases done

/--
A document that is refused for a name or a car type has a rule at fault, and the location given
points at it.

The rule is rejected by the registry read from the document.
The location leads from the document to the token that denotes the rule, unless the rule is a sound
named in the list `sounds`, to which the location gives a position past the rules beside it.
-/
theorem points_of_ofDocument {document carTypes : Token} {error : ResolutionError}
    (failed : ofDocument document carTypes = .error (.resolution error))
    (noCycle : ∀ names, error.fault ≠ .cycle names) :
    ∃ (entries : Entries) (registry : Registry) (name : String) (steps : List Step) (rule : Rule),
      document = .mapping entries ∧
      registry.ReadFrom (entries.getD "rules") (entries.getD "sounds") carTypes ∧
      registry.Rejects rule error.fault ∧
      error.location = (Location.start "rules").through (.key name :: steps) ∧
      document.Points (.key "rules" :: .key name :: steps) rule := by
  -- The rule at fault is found in the registry first, and then in the token that it was read from.
  unfold ofDocument at failed
  split at failed
  · rename_i entries
    obtain ⟨registry, read, failed⟩ := readFrom_of_build failed
    obtain ⟨⟨name, rule⟩, member, failed⟩ := failing_of_resolve failed noCycle
    obtain ⟨named, inner, whole, written, parsed⟩ := read.rules.entry_of_mem member
    have denotes : Denotes inner rule := (Rule.readAsDenoted inner _ rule).mp parsed
    have found : Entries.get? entries "rules" = some (.mapping named) :=
      (Entries.getD_eq_iff (.mapping named) nofun).mp whole
    obtain ⟨steps, part, place, rejects, points⟩ := Rule.liesIn_of_resolve denotes failed
    rw [Location.key_through] at place
    exact ⟨entries, registry, name, steps, part, rfl, read, rejects, place,
      (points.key written).key (Entries.mem_of_get? found)⟩
  · cases failed

/-- A name under a condition that stands for nothing is pointed at. -/
theorem ofDocument_missing_rule_points :
    let document : Token := .mapping [
      (.text "rules", .mapping [
        (.text "root", .mapping [(.text "type", .text "If"), (.text "property", .text "SkinName"),
          (.text "value", .text "old"), (.text "rule", .text "missing")])])]
    ∃ (registry : Registry) (rule : Rule), registry.Rejects rule (.noSuchRule "missing") ∧
      document.Points [.key "rules", .key "root", .key "rule"] rule := by
  -- The document is refused at the rule under the condition, which fixes the steps that lead to it.
  intro document
  have failed : ofDocument document .null = .error
      (.resolution ⟨.noSuchRule "missing", ⟨"rules", [.key "root", .key "rule"]⟩⟩) := rfl
  obtain ⟨_, registry, name, steps, rule, _, _, rejects, place, points⟩ :=
    points_of_ofDocument failed nofun
  obtain ⟨rfl, rfl⟩ : "root" = name ∧ [.key "rule"] = steps := by
    simpa [Location.through, Location.start] using place
  exact ⟨registry, rule, rejects, points⟩

/-- The location given for a sound that is missing from the sounds is not written like any place in
the document, as the sound was named in the list `sounds`. -/
theorem ofDocument_missing_sound_misplaced :
    let document : Token := .mapping [
      (.text "rules", .mapping [
        (.text "root",
          .mapping [(.text "type", .text "AllOf"), (.text "sounds", .list [.text "missing"])])]),
      (.text "sounds", .mapping [])]
    ∃ error, ofDocument document .null = .error (.resolution error) ∧
      error.fault = .noSuchSound "missing" ∧
      ∀ steps part, document.Leads (.key "rules" :: steps) part →
        ((Location.start "rules").through steps).text ≠ error.location.text := by
  -- The error is computed, and its text is compared with that of each place of the section.
  refine ⟨⟨.noSuchSound "missing", ⟨"rules", [.key "root", .key "rules", .item 0]⟩⟩, rfl, rfl, ?_⟩
  intro steps part leads
  -- Every place in the rules section is gone to: the section, the rule, and what is in the rule.
  simp only [Token.text, Token.leads_mapping_iff, reduceCtorEq, false_and, List.mem_cons,
    Prod.mk.injEq, Scalar.text.injEq, List.not_mem_nil, or_false, List.cons.injEq, Step.key.injEq,
    exists_and_left, ↓existsAndEq, and_true, true_and, String.reduceEq, exists_eq_left,
    false_or] at leads
  obtain ⟨rfl, -⟩ | ⟨_, ⟨rfl, -⟩ | ⟨_, _, ⟨rfl, rfl⟩ | ⟨rfl, rfl⟩, _, leads, rfl⟩, rfl⟩ := leads
  · decide
  · decide
  · obtain ⟨rfl, -⟩ := Token.leads_scalar_iff.mp leads
    decide
  · obtain ⟨rfl, -⟩ | ⟨position, inner, rest, found, leads, rfl⟩ := Token.leads_list_iff.mp leads
    · decide
    · obtain ⟨rfl, rfl⟩ : position = 0 ∧ inner = .scalar (.text "missing") := by
        cases position <;> simp_all
      obtain ⟨rfl, -⟩ := Token.leads_scalar_iff.mp leads
      decide

end Registry

end LocoSounds
