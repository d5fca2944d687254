import LocoSounds.Proofs.Rule.Reading

/-! The fault that rules are not read for: the first one that the reader comes to. -/

namespace LocoSounds

namespace Rule

variable {location place : Location} {entries : Entries} {fault : ParseFault}

section

variable {tag : String} (type : entries.Says "type" tag)
include type

/-- A sequence is refused for the first fault of its rules, and then of the sounds beside them. -/
theorem ofToken_allOf_eq_malformed_iff (form : lowercase tag = RuleKind.allOf.tag)
    (each : ∀ items, entries.get? "rules" = some (.list items) → ∀ item ∈ items, RefusesFirst item) :
    ofToken location (.mapping entries) = .error (.malformed fault place) ↔
      ∃ steps, RuleKind.allOf.FieldsFault entries steps fault ∧ place = location.through steps := by
  -- Each field is read by a function whose errors are known, and the errors are put in their order.
  have kind : RuleKind.ofName? tag = some .allOf := RuleKind.ofName?_eq_some_iff.mpr form
  simp only [ofToken, textField_eq_ok_iff.mpr type, bind_eq_error_iff, Except.ok.injEq,
    exists_eq_left', reduceCtorEq, false_or, kind, rulesIn_eq_malformed_iff each,
    Bool.false_eq_true, false_and, soundNames_eq_malformed_iff, exists_and_right,
    exists_rulesIn_optional_iff, exists_false, or_false, and_false]
  -- The sounds are looked at only when the rules are read.
  constructor
  · rintro (⟨steps, rules, rfl⟩ | ⟨⟨items, listed, each⟩, steps, sounds, rfl⟩)
    · exact ⟨steps, .rules (.inl rfl) rules, rfl⟩
    · exact ⟨steps, .sounds listed each sounds, rfl⟩
  · rintro ⟨steps, first, rfl⟩
    cases first with
    | rules _ rules => exact .inl ⟨steps, rules, rfl⟩
    | sounds listed each sounds => exact .inr ⟨⟨_, listed, each⟩, steps, sounds, rfl⟩
    | name naming => exact absurd naming (by decide)

/-- A choice is refused for the first fault of its rules, of its weights, and then of both together.
-/
theorem ofToken_oneOf_eq_malformed_iff (form : lowercase tag = RuleKind.oneOf.tag)
    (each : ∀ items, entries.get? "rules" = some (.list items) → ∀ item ∈ items, RefusesFirst item) :
    ofToken location (.mapping entries) = .error (.malformed fault place) ↔
      ∃ steps, RuleKind.oneOf.FieldsFault entries steps fault ∧ place = location.through steps := by
  -- Each field is read by a function whose errors are known, and the errors are put in their order.
  have kind : RuleKind.ofName? tag = some .oneOf := RuleKind.ofName?_eq_some_iff.mpr form
  simp only [ofToken, textField_eq_ok_iff.mpr type, bind_eq_error_iff, Except.ok.injEq,
    exists_eq_left', reduceCtorEq, false_or, kind, rulesIn_eq_malformed_iff each, true_and,
    weights_eq_malformed_iff, weights_eq_ok_iff, choiceAt_eq_malformed_iff,
    rulesIn_required_eq_ok_iff_denotes]
  -- The weights are looked at only when the rules are read, and the choice only after both.
  constructor
  · rintro ((⟨lacks, rfl, rfl⟩ | ⟨steps, rules, rfl⟩) | ⟨rules, ⟨items, found, denoted⟩, later⟩)
    · exact ⟨[], .noRules lacks, place.through_nil.symm⟩
    · exact ⟨steps, .rules (.inr rfl) rules, rfl⟩
    · have each : ∀ item ∈ items, item.IsRule := exists_forall₂_iff.mp ⟨rules, denoted⟩
      obtain ⟨steps, unweighed, rfl⟩ | ⟨given, gives, prevented, prevents, rfl, rfl⟩ := later
      · exact ⟨steps, .weights found each unweighed, rfl⟩
      · rw [← denoted.length_eq] at gives prevents
        exact ⟨[], .choice found each gives prevents, place.through_nil.symm⟩
  · rintro ⟨steps, first, rfl⟩
    cases first with
    | noRules lacks => exact .inl (.inl ⟨lacks, rfl, location.through_nil⟩)
    | rules _ rules => exact .inl (.inr ⟨steps, rules, rfl⟩)
    | weights found each unweighed =>
      obtain ⟨rules, denoted⟩ := exists_forall₂_iff.mpr each
      exact .inr ⟨rules, ⟨_, found, denoted⟩, .inl ⟨steps, unweighed, rfl⟩⟩
    | choice found each gives prevents =>
      obtain ⟨rules, denoted⟩ := exists_forall₂_iff.mpr each
      rw [denoted.length_eq] at gives prevents
      exact .inr ⟨rules, ⟨_, found, denoted⟩,
        .inr ⟨_, gives, _, prevents, rfl, location.through_nil⟩⟩
    | name naming => exact absurd naming (by decide)

/-- A condition is refused for its property, for the lack of a rule, for its value, and then for the
first fault of the rule under it. -/
theorem ofToken_when_eq_malformed_iff (form : lowercase tag = RuleKind.when.tag)
    (inside : ∀ token, entries.get? "rule" = some token → RefusesFirst token) :
    ofToken location (.mapping entries) = .error (.malformed fault place) ↔
      ∃ steps, RuleKind.when.FieldsFault entries steps fault ∧ place = location.through steps := by
  -- Whether there is a rule under the condition is looked at between the property and the value.
  have kind : RuleKind.ofName? tag = some .when := RuleKind.ofName?_eq_some_iff.mpr form
  by_cases lacks : entries.Lacks "rule"
  · -- Without a rule under the condition, nothing after it is looked at.
    have null : (entries.getD "rule").isNull :=
      Token.isNull_iff.mpr (Entries.lacks_iff.mp lacks)
    simp only [ofToken, textField_eq_ok_iff.mpr type, bind_eq_error_iff, Except.ok.injEq,
      exists_eq_left', reduceCtorEq, false_or, kind, property_eq_malformed_iff, null, if_true,
      Token.missing, Except.error.injEq, ParseError.malformed.injEq, false_and, exists_false,
      or_false, exists_and_right, exists_property_iff]
    constructor
    · rintro ((⟨steps, property, rfl⟩ | ⟨name, tested, other, rfl, rfl⟩) | ⟨property, rfl, rfl⟩)
      · exact ⟨steps, .property property, rfl⟩
      · exact ⟨_, .noProperty tested other, rfl⟩
      · exact ⟨[], .noRule property lacks, location.through_nil.symm⟩
    · rintro ⟨steps, first, rfl⟩
      cases first with
      | rules listing => exact absurd listing (by decide)
      | property property => exact .inl (.inl ⟨steps, property, rfl⟩)
      | noProperty tested other => exact .inl (.inr ⟨_, tested, other, rfl, rfl⟩)
      | noRule property => exact .inr ⟨property, rfl, location.through_nil.symm⟩
      | value _ given => exact absurd lacks given
      | rule _ given => exact absurd lacks given
      | name naming => exact absurd naming (by decide)
  · have notNull : (entries.getD "rule").isNull = false := by
      rw [Bool.eq_false_iff]
      exact fun null => lacks (Entries.lacks_iff.mpr (Token.isNull_iff.mp null))
    simp only [ofToken, textField_eq_ok_iff.mpr type, bind_eq_error_iff, Except.ok.injEq,
      exists_eq_left', reduceCtorEq, false_or, kind, property_eq_malformed_iff, notNull,
      Bool.false_eq_true, if_false, textField_eq_malformed_iff, textField_eq_ok_iff,
      ruleIn_eq_malformed_iff lacks inside, and_false, exists_false, or_false, exists_and_right,
      exists_property_iff]
    constructor
    · rintro ((⟨steps, property, rfl⟩ | ⟨name, tested, other, rfl, rfl⟩) |
        ⟨property, ⟨steps, value, rfl⟩ | ⟨⟨value, wanted⟩, token, steps, found, first, rfl⟩⟩)
      · exact ⟨steps, .property property, rfl⟩
      · exact ⟨_, .noProperty tested other, rfl⟩
      · exact ⟨steps, .value property lacks value, rfl⟩
      · exact ⟨_, .rule property lacks wanted found first, rfl⟩
    · rintro ⟨steps, first, rfl⟩
      cases first with
      | rules listing => exact absurd listing (by decide)
      | property property => exact .inl (.inl ⟨steps, property, rfl⟩)
      | noProperty tested other => exact .inl (.inr ⟨_, tested, other, rfl, rfl⟩)
      | noRule _ missing => exact absurd missing lacks
      | value property _ value => exact .inr ⟨property, .inl ⟨steps, value, rfl⟩⟩
      | rule property _ wanted found first =>
        exact .inr ⟨property, .inr ⟨⟨_, wanted⟩, _, _, found, first, rfl⟩⟩
      | name naming => exact absurd naming (by decide)

/-- A sound and a reference are refused for the fault of their names. -/
theorem ofToken_named_eq_malformed_iff {kind : RuleKind} (naming : kind = .sound ∨ kind = .ref)
    (form : lowercase tag = kind.tag) :
    ofToken location (.mapping entries) = .error (.malformed fault place) ↔
      ∃ steps, kind.FieldsFault entries steps fault ∧ place = location.through steps := by
  -- Both forms have one field, which is read as a text.
  have found : RuleKind.ofName? tag = some kind := RuleKind.ofName?_eq_some_iff.mpr form
  have fields : ofToken location (.mapping entries) = .error (.malformed fault place) ↔
      ∃ steps, entries.TextFault "name" steps fault ∧ place = location.through steps := by
    obtain rfl | rfl := naming <;>
    simp only [ofToken, textField_eq_ok_iff.mpr type, bind_eq_error_iff, Except.ok.injEq,
      exists_eq_left', reduceCtorEq, false_or, found, textField_eq_malformed_iff, and_false,
      exists_false, or_false]
  -- Neither form has a field besides the name.
  rw [fields]
  refine exists_congr fun steps => and_congr_left fun _ => ⟨.name naming, fun first => ?_⟩
  obtain rfl | rfl := naming
  · cases first with
    | rules listing => exact absurd listing (by decide)
    | name _ name => exact name
  · cases first with
    | rules listing => exact absurd listing (by decide)
    | name _ name => exact name

end

/-- Where a text stands under a name, nothing is wrong with it. -/
theorem not_textFault_of_written {name text : String} (written : entries.Says name text)
    {steps : List Step} : ¬ entries.TextFault name steps fault := by
  -- A text is neither missing nor of another kind.
  rintro (⟨none | null⟩ | ⟨found, _, other⟩)
  · cases written.symm.trans none
  · cases written.symm.trans null
  · cases written.symm.trans found
    exact other (.text text)

/-- The first fault of a mapping that is tagged as a form is that of the fields of the form. -/
theorem firstFault_iff_fieldsFault {tag : String} {kind : RuleKind} {steps : List Step}
    (type : entries.Says "type" tag) (form : lowercase tag = kind.tag) :
    (Token.mapping entries).FirstFault steps fault ↔ kind.FieldsFault entries steps fault := by
  -- Each other way in which a mapping may be at fault is one that the tag rules out.
  constructor
  · intro first
    cases first with
    | unfit unfit =>
      obtain ⟨_, other, _⟩ := Wanted.unfit_iff.mp unfit
      exact absurd (.rule entries) other
    | tag tag => exact absurd tag (not_textFault_of_written type)
    | form again other =>
      cases type.symm.trans again
      exact absurd form (other kind)
    | fields again named first =>
      -- A mapping has one tag, which is that of one form.
      cases type.symm.trans again
      have same := (RuleKind.ofName?_eq_some_iff.mpr form).symm.trans
        (RuleKind.ofName?_eq_some_iff.mpr named)
      cases same
      exact first
  · exact .fields type form

/-- A mapping whose tag cannot be read, or is that of no form, is refused for the tag. -/
theorem ofToken_untagged_eq_malformed_iff
    (untagged : ∀ tag, entries.Says "type" tag → ∀ kind : RuleKind, lowercase tag ≠ kind.tag) :
    ofToken location (.mapping entries) = .error (.malformed fault place) ↔
      ∃ steps, (Token.mapping entries).FirstFault steps fault ∧ place = location.through steps := by
  -- The text under the tag is not read, or it is read and no form has it.
  rw [ofToken, bind_eq_error_iff, textField_eq_malformed_iff]
  simp only [textField_eq_ok_iff]
  constructor
  · rintro (⟨steps, tag, rfl⟩ | ⟨tag, type, failed⟩)
    · exact ⟨steps, .tag tag, rfl⟩
    · rw [RuleKind.ofName?_eq_none_iff.mpr (untagged tag type)] at failed
      cases failed
      exact ⟨[], .form type (untagged tag type), location.through_nil.symm⟩
  · rintro ⟨steps, first, rfl⟩
    cases first with
    | unfit unfit =>
      obtain ⟨_, other, _⟩ := Wanted.unfit_iff.mp unfit
      exact absurd (.rule entries) other
    | tag tag => exact .inl ⟨steps, tag, rfl⟩
    | @form _ tag type other =>
      refine .inr ⟨tag, type, ?_⟩
      rw [RuleKind.ofName?_eq_none_iff.mpr other, Location.through_nil]
    | fields type form => exact absurd form (untagged _ type _)

/-- A mapping is refused for its first fault, where the tokens in it are. -/
theorem refusesFirst_mapping
    (inside : ∀ token, entries.get? "rule" = some token → RefusesFirst token)
    (each : ∀ items, entries.get? "rules" = some (.list items) →
      ∀ item ∈ items, RefusesFirst item) : RefusesFirst (.mapping entries) := by
  -- The tag names a form or none, and each form was dealt with on its own.
  intro location fault place
  -- Without the tag of a form no field is looked at.
  by_cases tagged : ∃ tag, entries.Says "type" tag ∧ ∃ kind : RuleKind, lowercase tag = kind.tag
  · obtain ⟨tag, type, kind, form⟩ := tagged
    simp only [firstFault_iff_fieldsFault type form]
    cases kind with
    | allOf => exact ofToken_allOf_eq_malformed_iff type form each
    | oneOf => exact ofToken_oneOf_eq_malformed_iff type form each
    | when => exact ofToken_when_eq_malformed_iff type form inside
    | sound => exact ofToken_named_eq_malformed_iff type (.inl rfl) form
    | ref => exact ofToken_named_eq_malformed_iff type (.inr rfl) form
  · refine ofToken_untagged_eq_malformed_iff fun tag type kind form => ?_
    exact tagged ⟨tag, type, kind, form⟩

/-- Every token is refused for its first fault. -/
theorem refusesFirst (token : Token) : RefusesFirst token := by
  -- The rules inside a rule are read from what stands under names, or in lists under names.
  induction token using Token.induction with
  | mapping entries inside listed =>
    exact refusesFirst_mapping (inside "rule") (listed "rules")
  | other token notMapping =>
    intro location fault place
    constructor
    · intro failed
      unfold ofToken at failed
      split at failed
      · cases failed
      · exact absurd rfl (notMapping _)
      · rename_i notText _
        cases failed
        have other : ¬ Wanted.rule.Fits token := by
          rw [Wanted.fits_rule_iff]
          rintro (⟨name, same⟩ | ⟨entries, same⟩)
          · exact notText name same
          · exact notMapping entries same
        exact ⟨[], .unfit (.unfit other), location.through_nil.symm⟩
    · rintro ⟨steps, first, rfl⟩
      cases first with
      | unfit unfit =>
        obtain ⟨rfl, other, rfl⟩ := Wanted.unfit_iff.mp unfit
        rw [Location.through_nil]
        unfold ofToken
        split
        · exact absurd (.name _) other
        · exact absurd rfl (notMapping _)
        · rfl
      | _ => exact absurd rfl (notMapping _)

end Rule

namespace Section

/-- What a section of rules is refused for. The section itself is looked at first, then its keys, and
then what stands under them, in the order written. A key is at fault in its written form: where it has
none, the section is not refused, but reading it breaks off. -/
inductive FirstFault : Token → ParseFault → Location → Prop where
  | shape {token : Token} (given : token ≠ .scalar .null)
      (other : ∀ entries, token ≠ .mapping entries) :
      FirstFault token (.sectionNotMapping .rules) (.start "rules")
  | key {before after : Entries} {key : Scalar} {token : Token} {written : String}
      (names : ∀ entry ∈ before, ∃ name, entry.1 = .text name)
      (other : ∀ name, key ≠ .text name) (form : key.plain? = some written) :
      FirstFault (.mapping (before ++ (key, token) :: after)) (.nameNotText .rules key.typeName)
        ((Location.start "rules").key written)
  | entry {entries before after : Entries} {name : String} {token part : Token}
      {steps : List Step} {fault : ParseFault}
      (written : entries = before ++ (.text name, token) :: after)
      (names : ∀ entry ∈ entries, ∃ name, entry.1 = .text name)
      (rules : ∀ entry ∈ before, entry.2.IsRule) (first : token.FirstFault steps fault)
      (leads : token.Leads steps part) (concerns : fault.Concerns part) :
      FirstFault (.mapping entries) fault (((Location.start "rules").key name).through steps)

variable {entries : Entries} {fault : ParseFault} {place : Location}

/-- Entries under names are taken over as they are. -/
theorem entries_mapping_eq_ok_iff_map (part : Section) {named : List (String × Token)} :
    part.entries (.mapping entries) = .ok named ↔
      entries = named.map fun entry => (.text entry.1, entry.2) := by
  -- Names and keys stand side by side, so one list determines the other.
  rw [entries_mapping_eq_ok_iff, ← List.forall₂_map_right_iff (R := Eq), List.forall₂_eq_eq_eq]

/-- Entries whose keys are texts are entries under names. -/
theorem exists_eq_map_of_names (names : ∀ entry ∈ entries, ∃ name, entry.1 = .text name) :
    ∃ named : List (String × Token), entries = named.map fun entry => (.text entry.1, entry.2) := by
  -- Each entry is turned into one under a name, and the list of entries with it.
  have each : ∀ entry ∈ entries, ∃ named : String × Token,
      entry = (.text named.1, named.2) := by
    rintro ⟨key, token⟩ member
    obtain ⟨name, same⟩ := names _ member
    exact ⟨(name, token), Prod.ext same rfl⟩
  obtain ⟨named, related⟩ := exists_forall₂_iff.mpr each
  exact ⟨named, List.forall₂_eq_eq_eq ▸ List.forall₂_map_right_iff.mpr related⟩

/-- A key is taken over as a name where it is one. -/
theorem exists_takeEntry_iff (part : Section) {entry : Scalar × Token} :
    (∃ named, part.takeEntry entry = .ok named) ↔ ∃ name, entry.1 = .text name := by
  -- What stands under the name goes along with it.
  simp only [takeEntry_eq_ok_iff]
  constructor
  · rintro ⟨named, rfl⟩
    exact ⟨named.1, rfl⟩
  · rintro ⟨name, named⟩
    exact ⟨(name, entry.2), Prod.ext named rfl⟩

/-- A key is refused that is no name, in its written form. -/
theorem takeEntry_eq_malformed_iff (part : Section) {key : Scalar} {token : Token} :
    part.takeEntry (key, token) = .error (.malformed fault place) ↔
      (∀ name, key ≠ .text name) ∧ fault = .nameNotText part key.typeName ∧
        ∃ written, key.plain? = some written ∧ place = (Location.start part.name).key written := by
  -- A key that is a text is taken over, and any other one is refused if it can be written.
  by_cases other : ∀ name, key ≠ .text name
  · rw [part.takeEntry_of_other token other]
    -- Without a written form there is no place to give.
    cases key.plain? <;> simp [other, eq_comm]
  · obtain ⟨name, rfl⟩ := not_forall_not.mp other
    exact iff_of_false nofun fun refused => refused.1 name rfl

/-- The entries of a section are not taken over for the first key that is no name. -/
theorem entries_mapping_eq_malformed_iff (part : Section) :
    part.entries (.mapping entries) = .error (.malformed fault place) ↔
      ∃ before key token after written, entries = before ++ (key, token) :: after ∧
        (∀ entry ∈ before, ∃ name, entry.1 = .text name) ∧ (∀ name, key ≠ .text name) ∧
        key.plain? = some written ∧ fault = .nameNotText part key.typeName ∧
        place = (Location.start part.name).key written := by
  -- Keys are taken over one by one, up to the first that is refused.
  rw [Section.entries, mapM_eq_error_iff]
  simp only [exists_takeEntry_iff]
  constructor
  · rintro ⟨before, ⟨key, token⟩, after, split, names, failed⟩
    obtain ⟨other, what, written, form, place⟩ := (part.takeEntry_eq_malformed_iff).mp failed
    exact ⟨before, key, token, after, written, split, names, other, form, what, place⟩
  · rintro ⟨before, key, token, after, written, split, names, other, form, what, place⟩
    exact ⟨before, (key, token), after, split, names,
      (part.takeEntry_eq_malformed_iff).mpr ⟨other, what, written, form, place⟩⟩

/-- A section that is neither absent nor a mapping has no rules. -/
theorem ofSection_of_notMapping {token : Token} (given : token ≠ .scalar .null)
    (other : ∀ entries, token ≠ .mapping entries) : Rule.ofSection token =
      .error (.malformed (.sectionNotMapping .rules) (.start "rules")) := by
  -- Of the three things that a section may be, the first two are excluded.
  have refused : Section.rules.entries token =
      .error (.malformed (.sectionNotMapping .rules) (.start "rules")) := by
    unfold Section.entries
    split
    · exact absurd rfl given
    · exact absurd rfl (other _)
    · rfl
  rw [Rule.ofSection, refused]
  rfl

/-- A rule is not read from an entry where none is read from what stands under the name. -/
theorem readRule_eq_error_iff {entry : String × Token} {error : ParseError} :
    (do let rule ← Rule.ofEntry entry.1 entry.2; pure (entry.1, rule)) = Except.error error ↔
      Rule.ofEntry entry.1 entry.2 = .error error := by
  -- Putting the name beside what was read cannot fail.
  rw [bind_eq_error_iff, or_iff_left]
  rintro ⟨_, _, done⟩
  cases done

/-- Rules are not read from named tokens for the first fault of the first of them that is no rule. -/
theorem mapM_readRule_eq_malformed_iff {named : List (String × Token)} :
    (named.mapM fun entry => do
        let rule ← Rule.ofEntry entry.1 entry.2
        pure (entry.1, rule)) = .error (.malformed fault place) ↔
      ∃ before name token after steps, named = before ++ (name, token) :: after ∧
        (∀ entry ∈ before, entry.2.IsRule) ∧ token.FirstFault steps fault ∧
        place = ((Location.start "rules").key name).through steps := by
  -- The first entry that fails is found, and the ones before it are exactly rules.
  have reads : ∀ entry : String × Token, (∃ value : String × Rule,
      (do let rule ← Rule.ofEntry entry.1 entry.2; pure (entry.1, rule)) = Except.ok value) ↔
        entry.2.IsRule := by
    intro entry
    simp only [readEntry_eq_ok_iff]
    constructor
    · rintro ⟨⟨_, rule⟩, _, done⟩
      exact Rule.exists_ofToken_eq_ok_iff.mp ⟨rule, done⟩
    · intro is
      obtain ⟨rule, done⟩ := Rule.exists_ofToken_eq_ok_iff.mpr is
      exact ⟨(entry.1, rule), rfl, done⟩
  have refused : ∀ entry : String × Token,
      Rule.ofEntry entry.1 entry.2 = .error (.malformed fault place) ↔
        ∃ steps, entry.2.FirstFault steps fault ∧
          place = ((Location.start "rules").key entry.1).through steps :=
    fun entry => Rule.refusesFirst entry.2 _ fault place
  rw [mapM_eq_error_iff]
  simp only [reads, readRule_eq_error_iff, refused]
  constructor
  · rintro ⟨before, ⟨name, token⟩, after, written, rules, steps, first, same⟩
    exact ⟨before, name, token, after, steps, written, rules, first, same⟩
  · rintro ⟨before, name, token, after, steps, written, rules, first, same⟩
    exact ⟨before, (name, token), after, written, rules, steps, first, same⟩

end Section

/--
What a section of rules is refused for is its first fault, and the place given is where that lies.

Keys come before what stands under any of them, so that a key which is no name is the fault whatever
the entries hold.
Of the entries the first one that is no rule is at fault, and in that one the first part that is read
and is not well formed, or the mapping that lacks it.
-/
theorem Rule.ofSection_eq_malformed_iff (token : Token) (fault : ParseFault) (place : Location) :
    ofSection token = .error (.malformed fault place) ↔ Section.FirstFault token fault place := by
  -- The entries are taken over, and then each of them is read.
  have stages : ofSection token = .error (.malformed fault place) ↔
      Section.rules.entries token = .error (.malformed fault place) ∨
      ∃ named, Section.rules.entries token = .ok named ∧
        (named.mapM fun entry => do
          let rule ← ofEntry entry.1 entry.2
          pure (entry.1, rule)) = .error (.malformed fault place) := bind_eq_error_iff
  by_cases mapping : ∃ entries, token = .mapping entries
  · obtain ⟨entries, rfl⟩ := mapping
    rw [stages]
    simp only [Section.mapM_readRule_eq_malformed_iff, Section.entries_mapping_eq_malformed_iff,
      Section.entries_mapping_eq_ok_iff_map]
    constructor
    · rintro (⟨before, key, token, after, written, rfl, names, other, form, rfl, rfl⟩ |
        ⟨named, written, before, name, token, after, steps, rfl, rules, first, rfl⟩)
      · exact .key names other form
      · obtain ⟨part, leads, concerns⟩ := first.leads
        have split : entries = (before.map fun entry => (Scalar.text entry.1, entry.2)) ++
            (.text name, token) :: after.map fun entry => (Scalar.text entry.1, entry.2) := by
          rw [written, List.map_append, List.map_cons]
        refine .entry split ?_ ?_ first leads concerns
        · rintro entry member
          rw [written] at member
          obtain ⟨named, _, rfl⟩ := List.mem_map.mp member
          exact ⟨named.1, rfl⟩
        · intro entry member
          obtain ⟨named, among, rfl⟩ := List.mem_map.mp member
          exact rules named among
    · intro first
      cases first with
      | shape _ other => exact absurd rfl (other entries)
      | key names other form =>
        exact .inl ⟨_, _, _, _, _, rfl, names, other, form, rfl, rfl⟩
      | entry written names rules first _ _ =>
        obtain ⟨named, map⟩ := Section.exists_eq_map_of_names names
        -- What stands before the refused entry and after it is named as well.
        obtain ⟨before, rest, parts, rfl, onward⟩ := List.map_eq_append_iff.mp (map ▸ written)
        obtain ⟨⟨name, token⟩, after, rfl, here, rfl⟩ := List.map_eq_cons_iff.mp onward
        cases here
        exact .inr ⟨named, map, before, name, token, after, _, parts,
          fun entry member => rules _ (List.mem_map_of_mem member), first, rfl⟩
  · have other : ∀ entries, token ≠ .mapping entries := fun entries same => mapping ⟨entries, same⟩
    by_cases null : token = .scalar .null
    · subst null
      constructor
      · intro failed
        cases failed
      · rintro (⟨given, _⟩ | _ | _)
        exact absurd rfl given
    · rw [Section.ofSection_of_notMapping null other]
      constructor
      · intro failed
        cases failed
        exact .shape null other
      · rintro (_ | _ | _)
        · rfl
        · exact absurd rfl (other _)
        · exact absurd rfl (other _)

end LocoSounds
