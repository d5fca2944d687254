import LocoSounds.Proofs.Rule.Reading
import LocoSounds.Proofs.Text.Lowercase
import Mathlib.Logic.Relation

/-! Edits of a rule's token that its reader does not see. -/

namespace LocoSounds

/-- The names that the rules of a form have fields under. -/
def RuleKind.fields : RuleKind → List String
  | .allOf => ["rules", "sounds"]
  | .oneOf => ["rules", "weights"]
  | .when => ["property", "value", "rule"]
  | .sound => ["name"]
  | .ref => ["name"]

/-- The names that a mapping is asked for: `type`, and the fields of the form it is tagged with. -/
def Entries.Uses (entries : Entries) (name : String) : Prop :=
  name = "type" ∨ ∃ tag, entries.Says "type" tag ∧ ∃ kind : RuleKind,
    lowercase tag = kind.tag ∧ name ∈ kind.fields

/-- One edit of a rule's token, on the mapping itself or on a rule inside it. -/
inductive Token.Edit : Token → Token → Prop where
  /-- The keys of a mapping come in another order. -/
  | order {entries others : Entries} (distinct : entries.Distinct) (perm : entries.Perm others) :
      Edit (.mapping entries) (.mapping others)
  /-- A key is added that the mapping is not asked for. -/
  | unused {before after : Entries} {key : Scalar} {token : Token}
      (unused : ∀ name, Entries.Uses (before ++ after) name → key ≠ .text name) :
      Edit (.mapping (before ++ after)) (.mapping (before ++ (key, token) :: after))
  /-- A name that the mapping lacks is added with null under it. -/
  | null {before after : Entries} {name : String}
      (absent : Entries.get? (before ++ after) name = none) :
      Edit (.mapping (before ++ after)) (.mapping (before ++ (.text name, .null) :: after))
  /-- The tag of a form is written with other letters small. -/
  | tag {before after : Entries} {tag other : String} {kind : RuleKind}
      (form : lowercase tag = kind.tag) (letters : tag.toLower = other.toLower) :
      Edit (.mapping (before ++ (.text "type", .text tag) :: after))
        (.mapping (before ++ (.text "type", .text other) :: after))
  /-- The name of a property is written with other letters small. -/
  | property {before after : Entries} {name other : String} {property : CarProperty}
      (named : property.IsNamed name) (letters : name.toLower = other.toLower) :
      Edit (.mapping (before ++ (.text "property", .text name) :: after))
        (.mapping (before ++ (.text "property", .text other) :: after))
  /-- The rule inside a condition is edited. -/
  | rule {before after : Entries} {token other : Token} (inside : Edit token other) :
      Edit (.mapping (before ++ (.text "rule", token) :: after))
        (.mapping (before ++ (.text "rule", other) :: after))
  /-- One of the rules in a list is edited. -/
  | item {before after : Entries} {front back : List Token} {token other : Token}
      (inside : Edit token other) :
      Edit (.mapping (before ++ (.text "rules", .list (front ++ token :: back)) :: after))
        (.mapping (before ++ (.text "rules", .list (front ++ other :: back)) :: after))

namespace Entries

variable {entries others before after : Entries} {name : String}

/-- A text that a name has under it is what is looked up there. -/
theorem says_iff_getD {text : String} :
    entries.Says name text ↔ entries.getD name = .scalar (.text text) :=
  (getD_eq_iff (.scalar (.text text)) nofun).symm

/-- Where keys are distinct, the token under a name is the one that stands there. -/
theorem get?_eq_some_iff_mem (distinct : entries.Distinct) {token : Token} :
    entries.get? name = some token ↔ (.text name, token) ∈ entries := by
  -- The first entry of a key is the only one, so the search cannot stop too early.
  refine ⟨mem_of_get?, fun member => ?_⟩
  -- The search goes through the entries until it comes to the name.
  induction entries with
  | nil => cases member
  | cons entry rest ih =>
    obtain ⟨key, first⟩ := entry
    obtain ⟨apart, distinct⟩ := List.pairwise_cons.mp distinct
    rw [get?_cons]
    obtain here | later := List.mem_cons.mp member
    · cases here
      exact if_pos rfl
    · -- The first key is not the one that stands again further on.
      have other : key ≠ .text name := by
        rintro rfl
        exact apart _ later (Scalar.sameKey_iff.mpr ⟨_, rfl, rfl⟩)
      rw [if_neg other]
      exact ih distinct later

/-- The order of distinct keys does not change what is found under a name. -/
theorem get?_eq_of_perm (distinct : entries.Distinct) (perm : entries.Perm others) (name : String) :
    entries.get? name = others.get? name := by
  -- What is found is what stands there, and the same entries stand in both.
  ext token
  rw [get?_eq_some_iff_mem distinct, get?_eq_some_iff_mem (distinct.of_perm perm), perm.mem_iff]

/-- An entry under another key is passed over. -/
theorem get?_insert_of_ne {key : Scalar} (other : key ≠ .text name) (token : Token) :
    get? (before ++ (key, token) :: after) name = get? (before ++ after) name := by
  -- The search goes past the entry to those behind it.
  rw [get?_append, get?_append, get?_cons, if_neg other]

/-- Null that is added under a name that is lacked looks the same as nothing. -/
theorem getD_insert_null {written : String} (absent : get? (before ++ after) written = none)
    (name : String) :
    getD (before ++ (.text written, .null) :: after) name = getD (before ++ after) name := by
  -- Under the name itself nothing was found, and under others nothing changes.
  unfold getD
  by_cases same : Scalar.text written = .text name
  · cases same
    obtain ⟨beforeNone, afterNone⟩ := Option.or_eq_none_iff.mp (get?_append before after _ ▸ absent)
    rw [absent, get?_append, get?_cons, beforeNone, if_pos rfl]
    rfl
  · rw [get?_insert_of_ne same]

end Entries

/-- Wherever they stand, two tokens are read as one rule or refused for one fault at one place. -/
def Token.ReadAlike (token other : Token) : Prop :=
  ∀ location, Rule.ofToken location token = Rule.ofToken location other

/-- Of two tokens either one may stand under a name of a rule's mapping, which is read the same. -/
inductive Token.AlikeUnder (name : String) : Token → Token → Prop where
  | same {token : Token} : AlikeUnder name token token
  | tag {tag other : String} {kind : RuleKind} (field : name = "type")
      (form : lowercase tag = kind.tag) (formOther : lowercase other = kind.tag) :
      AlikeUnder name (.text tag) (.text other)
  | property {first other : String} {property : CarProperty} (field : name = "property")
      (named : property.IsNamed first) (namedOther : property.IsNamed other) :
      AlikeUnder name (.text first) (.text other)
  | rule {token other : Token} (field : name = "rule") (given : token ≠ .null)
      (givenOther : other ≠ .null) (alike : token.ReadAlike other) : AlikeUnder name token other
  | rules {items others : List Token} (field : name = "rules")
      (each : List.Forall₂ Token.ReadAlike items others) :
      AlikeUnder name (.list items) (.list others)

namespace Token.AlikeUnder

variable {name : String} {token other : Token}

/-- Only under some names different tokens are alike. -/
theorem eq_of_not_mem (alike : AlikeUnder name token other)
    (plain : name ∉ ["type", "property", "rule", "rules"]) : token = other := by
  -- Each other way of being alike is about one name, and the name is none of these.
  cases alike with
  | same => rfl
  | tag field | property field | rule field | rules field => simp [field] at plain

/-- Null is alike to itself alone. -/
theorem isNull_eq (alike : AlikeUnder name token other) : token.isNull = other.isNull := by
  -- No token that may be replaced by an alike one is null, on either side.
  cases alike with
  | same | tag | property | rules => rfl
  | rule _ given givenOther _ =>
    rw [Bool.eq_false_iff.mpr (mt Token.isNull_iff.mp given),
      Bool.eq_false_iff.mpr (mt Token.isNull_iff.mp givenOther)]

end Token.AlikeUnder

namespace Rule

variable {location : Location} {entries others : Entries} {name : String}

/-- A text field is read from what stands under its name. -/
theorem textField_congr (same : entries.getD name = others.getD name) :
    textField location entries name = textField location others name := by
  -- Nothing else of the mapping is looked at.
  unfold textField
  rw [same]

/-- The sounds are read from what stands under `sounds`. -/
theorem soundNames_congr (same : entries.getD "sounds" = others.getD "sounds") :
    soundNames location entries = soundNames location others := by
  -- Nothing else of the mapping is looked at.
  unfold soundNames
  rw [same]

/-- The weights are read from what stands under `weights`. -/
theorem weights_congr {count : Nat} (same : entries.getD "weights" = others.getD "weights") :
    weights location entries count = weights location others count := by
  -- Nothing else of the mapping is looked at.
  unfold weights
  rw [same]

/-- The property is read from what stands under `property`, whatever the case of its letters. -/
theorem property_congr
    (alike : Token.AlikeUnder "property" (entries.getD "property") (others.getD "property")) :
    property location entries = property location others := by
  -- Two texts that name a property in letters of any case name the same one.
  unfold property textField
  generalize entries.getD "property" = token, others.getD "property" = other at alike
  cases alike with
  | same => rfl
  | property _ named namedOther =>
    have found := CarProperty.ofName?_eq_some_iff.mpr named
    have foundOther := CarProperty.ofName?_eq_some_iff.mpr namedOther
    simp only [Token.text, expectText, ok_bind, found, foundOther]
  | tag field | rule field | rules field => exact absurd field (by decide)

/-- Lists of tokens that are read alike are read alike. -/
theorem readList_congr {items replaced : List Token}
    (each : List.Forall₂ Token.ReadAlike items replaced) (position : Nat) :
    readList ofToken location position items = readList ofToken location position replaced := by
  -- By induction along the two lists, whose positions go up together.
  induction each generalizing position with
  | nil => rfl
  | cons first _ ih => rw [readList, readList, first, ih]

/-- The rules are read from what stands under `rules`. -/
theorem rulesIn_congr {required : Bool}
    (alike : Token.AlikeUnder "rules" (entries.getD "rules") (others.getD "rules")) :
    rulesIn location required entries = rulesIn location required others := by
  -- Two lists are alike where their items are read alike, and otherwise it is the same token.
  rw [rulesIn_eq, rulesIn_eq]
  generalize entries.getD "rules" = token, others.getD "rules" = other at alike
  cases alike with
  | same => rfl
  | rules _ each => exact readList_congr each 0
  | tag field | property field | rule field => exact absurd field (by decide)

/-- The rule inside is read from what stands under `rule`. -/
theorem ruleIn_congr
    (alike : Token.AlikeUnder "rule" (entries.getD "rule") (others.getD "rule"))
    (given : (entries.getD "rule").isNull = false) :
    ruleIn location entries = ruleIn location others := by
  -- A rule that is given stays given, so the branch for a missing one is not taken on either side.
  have givenOther : (others.getD "rule").isNull = false := alike.isNull_eq ▸ given
  have found := (Entries.getD_eq_iff _ (mt Token.isNull_iff.mpr (by simp [given]))).mp
    (rfl : entries.getD "rule" = _)
  have foundOther := (Entries.getD_eq_iff _ (mt Token.isNull_iff.mpr (by simp [givenOther]))).mp
    (rfl : others.getD "rule" = _)
  -- Both have something there, which is read in one way.
  rw [ruleIn_eq, ruleIn_eq, found, foundOther]
  generalize entries.getD "rule" = token, others.getD "rule" = other at alike
  cases alike with
  | same => rfl
  | rule _ _ _ alike => exact alike _
  | tag field | property field | rules field => exact absurd field (by decide)

/-- Mappings that are tagged as one form are read alike where the fields of the form are alike. -/
theorem ofToken_mapping_congr_of_form {tag other : String} {kind : RuleKind}
    (type : entries.Says "type" tag) (form : lowercase tag = kind.tag)
    (typeOther : others.Says "type" other) (formOther : lowercase other = kind.tag)
    (alike : ∀ name ∈ kind.fields, Token.AlikeUnder name (entries.getD name) (others.getD name)) :
    ofToken location (.mapping entries) = ofToken location (.mapping others) := by
  -- The tag is found on both sides, and of the form only its own fields are read.
  have found := RuleKind.ofName?_eq_some_iff.mpr form
  have foundOther := RuleKind.ofName?_eq_some_iff.mpr formOther
  have same : ∀ name ∈ kind.fields, name ∉ ["type", "property", "rule", "rules"] →
      entries.getD name = others.getD name :=
    fun name field plain => (alike name field).eq_of_not_mem plain
  simp only [ofToken, textField_eq_ok_iff.mpr type, textField_eq_ok_iff.mpr typeOther, ok_bind,
    found, foundOther]
  -- Each form reads its own fields, and each field is read the same on both sides.
  cases kind with
  | allOf =>
    rw [rulesIn_congr (alike "rules" (by decide)),
      soundNames_congr (same "sounds" (by decide) (by decide))]
  | oneOf =>
    have weighed : ∀ count, weights location entries count = weights location others count :=
      fun count => weights_congr (same "weights" (by decide) (by decide))
    simp only [rulesIn_congr (alike "rules" (by decide)), weighed]
  | when =>
    have inside := alike "rule" (by decide)
    rw [property_congr (alike "property" (by decide)), inside.isNull_eq,
      textField_congr (same "value" (by decide) (by decide))]
    cases given : (others.getD "rule").isNull with
    | true => rfl
    | false => rw [ruleIn_congr inside (inside.isNull_eq ▸ given)]
  | sound => rw [textField_congr (same "name" (by decide) (by decide))]
  | ref => rw [textField_congr (same "name" (by decide) (by decide))]

/-- Tags that are alike are the same or both that of one form. -/
theorem tags_of_alike
    (alike : Token.AlikeUnder "type" (entries.getD "type") (others.getD "type")) :
    entries.getD "type" = others.getD "type" ∨ ∃ tag other, ∃ kind : RuleKind,
      entries.Says "type" tag ∧ lowercase tag = kind.tag ∧
        others.Says "type" other ∧ lowercase other = kind.tag := by
  -- The ways of being alike are gone through, and only one of them is about tags.
  simp only [Entries.says_iff_getD]
  generalize entries.getD "type" = token, others.getD "type" = other at alike
  cases alike with
  | same => exact .inl rfl
  | tag _ form formOther => exact .inr ⟨_, _, _, rfl, form, rfl, formOther⟩
  | property field | rule field | rules field => exact absurd field (by decide)

/-- A mapping is read alike where what stands under the names that it is asked for is alike. -/
theorem readAlike_mapping (alike : ∀ name, entries.Uses name →
      Token.AlikeUnder name (entries.getD name) (others.getD name)) :
    (Token.mapping entries).ReadAlike (.mapping others) := by
  -- A form asks for its fields, so it is the tags that settle what has to be alike.
  intro location
  obtain same | ⟨tag, other, kind, type, form, typeOther, formOther⟩ :=
    tags_of_alike (alike "type" (.inl rfl))
  · -- The same tag is read from both, if one is read at all.
    cases read : textField location others "type" with
    | error error =>
      -- Without a tag nothing else is looked at.
      rw [ofToken, ofToken, textField_congr same, read]
      rfl
    | ok tag =>
      have typeOther : others.Says "type" tag := textField_eq_ok_iff.mp read
      have type : entries.Says "type" tag :=
        textField_eq_ok_iff.mp ((textField_congr same).trans read)
      cases found : RuleKind.ofName? tag with
      | none =>
        simp only [ofToken, textField_congr same, read, ok_bind, found]
      | some kind =>
        have form : lowercase tag = kind.tag := RuleKind.ofName?_eq_some_iff.mp found
        exact ofToken_mapping_congr_of_form type form typeOther form
          fun name field => alike name (.inr ⟨tag, type, kind, form, field⟩)
  · exact ofToken_mapping_congr_of_form type form typeOther formOther
      fun name field => alike name (.inr ⟨tag, type, kind, form, field⟩)

end Rule

/-- What stands under one name may be replaced by what is alike there, and is the same elsewhere. -/
theorem Entries.alikeUnder_replaced {before after : Entries} {written : String}
    {token other : Token} (alike : Token.AlikeUnder written token other) (name : String) :
    Token.AlikeUnder name (Entries.getD (before ++ (.text written, token) :: after) name)
      (Entries.getD (before ++ (.text written, other) :: after) name) := by
  -- The search goes through the entries before, the replaced one and those behind it.
  unfold Entries.getD
  rw [Entries.get?_append, Entries.get?_append, Entries.get?_cons, Entries.get?_cons]
  -- An earlier entry of the same name hides the one that is replaced.
  cases before.get? name with
  | some earlier => exact .same
  | none =>
    by_cases same : Scalar.text written = .text name
    · cases same
      rw [if_pos rfl, if_pos rfl]
      exact alike
    · rw [if_neg same, if_neg same]
      exact .same

/-- Tokens are read alike to themselves. -/
theorem Token.forall₂_readAlike (items : List Token) : List.Forall₂ Token.ReadAlike items items :=
  List.forall₂_same.mpr fun _ _ _ => rfl

/-- Only mappings are edited. -/
theorem Token.Edit.mapping {token other : Token} (edit : token.Edit other) :
    (∃ entries, token = .mapping entries) ∧ ∃ others, other = .mapping others := by
  -- Each kind of edit is one of a mapping.
  cases edit <;> exact ⟨⟨_, rfl⟩, _, rfl⟩

/-- A token is read alike before and after an edit. -/
theorem Token.Edit.readAlike {token other : Token} (edit : token.Edit other) :
    token.ReadAlike other := by
  -- Each edit leaves what is asked for alike, inside a rule by the edit there.
  induction edit with
  | order distinct perm =>
    refine Rule.readAlike_mapping fun name _ => ?_
    have same := Entries.get?_eq_of_perm distinct perm name
    rw [Entries.getD, Entries.getD, same]
    exact .same
  | unused unused =>
    refine Rule.readAlike_mapping fun name uses => ?_
    rw [Entries.getD, Entries.getD, Entries.get?_insert_of_ne (unused name uses)]
    exact .same
  | null absent =>
    refine Rule.readAlike_mapping fun name _ => ?_
    rw [Entries.getD_insert_null absent]
    exact .same
  | tag form letters =>
    have formOther := (lowercase_eq_of_toLower_eq letters).symm.trans form
    exact Rule.readAlike_mapping fun name _ =>
      Entries.alikeUnder_replaced (.tag rfl form formOther) name
  | @property _ _ name other property named letters =>
    have lower := lowercase_eq_of_toLower_eq letters
    have namedOther : property.IsNamed other := by
      cases property with
      | carType => exact lower.symm.trans named
      | skinName => exact lower.symm.trans named
    exact Rule.readAlike_mapping fun name _ =>
      Entries.alikeUnder_replaced (.property rfl named namedOther) name
  | rule inside ih =>
    obtain ⟨⟨entries, rfl⟩, others, rfl⟩ := inside.mapping
    have given : ∀ entries, Token.mapping entries ≠ .null := by
      rintro _ ⟨⟩
    have alike : Token.AlikeUnder "rule" (.mapping entries) (.mapping others) :=
      .rule rfl (given entries) (given others) ih
    exact Rule.readAlike_mapping fun name _ => Entries.alikeUnder_replaced alike name
  | @item _ _ front back token other inside ih =>
    have each : List.Forall₂ Token.ReadAlike (front ++ token :: back) (front ++ other :: back) :=
      List.rel_append (forall₂_readAlike front) (.cons ih (forall₂_readAlike back))
    exact Rule.readAlike_mapping fun name _ =>
      Entries.alikeUnder_replaced (.rules rfl each) name

/--
A rule's token is read the same after any number of edits, made or taken back, whether a rule is read
from it or a fault is reported.

Keys may come in another order, keys that are not asked for and nulls may come and go, and tags and
names of properties may be written with other letters small, in the token or in any rule inside it.
-/
theorem Rule.ofToken_eq_of_edits {token other : Token}
    (edits : Relation.EqvGen Token.Edit token other) (location : Location) :
    ofToken location token = ofToken location other := by
  -- Reading alike is an equivalence that holds across each single edit.
  induction edits with
  | rel _ _ edit => exact edit.readAlike location
  | refl => rfl
  | symm _ _ _ ih => exact ih.symm
  | trans _ _ _ _ _ first second => exact first.trans second

/-- A choice is the same with its tag in capitals, null weights, a note, and the property tested inside
it in small letters. -/
theorem Rule.ofToken_edited_choice :
    let condition (property : String) : Token :=
      .mapping [(.text "type", .text "If"), (.text "property", .text property),
        (.text "value", .text "DE2"), (.text "rule", .text "horns")]
    let token : Token :=
      .mapping [(.text "type", .text "OneOf"), (.text "rules", .list [condition "CarType"])]
    let other : Token :=
      .mapping [(.text "rules", .list [condition "cartype"]), (.text "weights", .null),
        (.text "note", .text "loud"), (.text "type", .text "ONEOF")]
    Relation.EqvGen Token.Edit token other ∧
      ofToken (.start "rules") token = ofToken (.start "rules") other := by
  -- One edit after another leads there: capitals, null weights, small letters, a note and the
  -- order.
  intro condition token other
  let tag : Scalar × Token := (.text "type", .text "ONEOF")
  let rules (property : String) : Scalar × Token := (.text "rules", .list [condition property])
  let weights : Scalar × Token := (.text "weights", .null)
  let note : Scalar × Token := (.text "note", .text "loud")
  have capitals : Token.Edit token (.mapping [tag, rules "CarType"]) := by
    have letters : "OneOf".toLower = "ONEOF".toLower :=
      toLower_eq_toLower_iff.mpr (by decide +kernel)
    exact @Token.Edit.tag [] [rules "CarType"] _ _ _ (RuleKind.lowercase_name .oneOf) letters
  have weightless : Token.Edit (.mapping [tag, rules "CarType"])
      (.mapping [tag, rules "CarType", weights]) :=
    @Token.Edit.null [tag, rules "CarType"] [] "weights" (by simp [Entries.get?, tag, rules])
  have small : Token.Edit (.mapping [tag, rules "CarType", weights])
      (.mapping [tag, rules "cartype", weights]) := by
    have letters : "CarType".toLower = "cartype".toLower :=
      toLower_eq_toLower_iff.mpr (by decide +kernel)
    have named : CarProperty.carType.IsNamed "CarType" := by
      show lowercase "CarType" = "cartype"
      decide +kernel
    have inside : (condition "CarType").Edit (condition "cartype") :=
      @Token.Edit.property [_] [_, _] _ _ _ named letters
    exact @Token.Edit.item [tag] [weights] [] [] _ _ inside
  have noted : Token.Edit (.mapping [tag, rules "cartype", weights])
      (.mapping [tag, rules "cartype", weights, note]) := by
    refine @Token.Edit.unused [tag, rules "cartype", weights] [] _ _ ?_
    rintro _ (type | ⟨_, _, kind, _, field⟩) ⟨⟩
    · exact absurd type (by decide)
    · revert field
      cases kind <;> decide
  have ordered : Token.Edit (.mapping [tag, rules "cartype", weights, note]) other := by
    have distinct : Entries.Distinct [tag, rules "cartype", weights, note] := by
      simp [Entries.Distinct, Scalar.sameKey, Scalar.identity?, tag, rules, weights, note]
    exact .order distinct (@List.perm_append_comm _ [tag] [rules "cartype", weights, note])
  have edits : Relation.EqvGen Token.Edit token other := by
    refine .trans _ _ _ (.rel _ _ capitals) (.trans _ _ _ (.rel _ _ weightless) ?_)
    refine .trans _ _ _ (.rel _ _ small) (.trans _ _ _ (.rel _ _ noted) (.rel _ _ ordered))
  exact ⟨edits, ofToken_eq_of_edits edits _⟩

end LocoSounds
