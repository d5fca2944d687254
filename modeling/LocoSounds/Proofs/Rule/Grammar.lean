import LocoSounds.Proofs.Binary64.Rounding
import LocoSounds.Proofs.Success
import LocoSounds.Proofs.Text.Lowercase
import LocoSounds.Proofs.Token.Parts
import LocoSounds.Rule.Grammar

/-! The grammar of rules as a relation between tokens and rules, and that reading decides it. -/

namespace LocoSounds

/-- A name has a text under it. -/
def Entries.Says (entries : Entries) (name text : String) : Prop :=
  entries.get? name = some (.scalar (.text text))

/-- A name has a list under it. Nothing and null stand for the empty list. -/
inductive Entries.Lists (entries : Entries) (name : String) : List Token → Prop where
  | absent (none : entries.get? name = none) : Lists entries name []
  | null (null : entries.get? name = some (.scalar .null)) : Lists entries name []
  | list {items : List Token} (found : entries.get? name = some (.list items)) :
      Lists entries name items

/-- A token is a number. Truth values are none, and a whole number counts as the nearest one. -/
inductive Token.IsNumber : Token → Binary64 → Prop where
  | int (value : Int) : IsNumber (.scalar (.int value)) (.ofInt value)
  | float (value : Binary64) : IsNumber (.scalar (.float value)) value
  | sharedNan : IsNumber (.scalar .sharedNan) .nan

/-- The weights of a number of rules. Nothing and null stand for a weight of one each, and those
given are finite, above zero and not too large to be added up. -/
inductive Entries.Weighs (entries : Entries) (count : Nat) : List Binary64 → Prop where
  | absent (none : entries.get? "weights" = none) : Weighs entries count (List.replicate count .one)
  | null (null : entries.get? "weights" = some (.scalar .null)) :
      Weighs entries count (List.replicate count .one)
  | list {items : List Token} {weights : List Binary64}
      (found : entries.get? "weights" = some (.list items))
      (each : List.Forall₂ Token.IsNumber items weights) (length : weights.length = count)
      (positive : ∀ weight ∈ weights, weight.isFinite ∧ .zero < weight)
      (total : (totalWeight weights).isFinite) : Weighs entries count weights

/-- A text names a property, whatever the case of its letters. -/
def CarProperty.IsNamed (text : String) : CarProperty → Prop
  | .carType => lowercase text = "cartype"
  | .skinName => lowercase text = "skinname"

/-- A token denotes a rule. The rule of a mapping goes by the tag under `type`, whatever the case of
its letters, and keys that it does not ask for have no part in it. -/
inductive Denotes : Token → Rule → Prop where
  | name {name : String} : Denotes (.scalar (.text name)) (.ref name)
  | allOf {entries : Entries} {tag : String} {items : List Token} {rules : List Rule}
      {names : List String} (type : entries.Says "type" tag) (form : lowercase tag = "allof")
      (listed : entries.Lists "rules" items) (each : List.Forall₂ Denotes items rules)
      (sounds : entries.Lists "sounds" (names.map fun name => .scalar (.text name))) :
      Denotes (.mapping entries) (.allOf (rules ++ names.map .sound))
  | oneOf {entries : Entries} {tag : String} {items : List Token} {rules : List Rule}
      {weights : List Binary64} (type : entries.Says "type" tag) (form : lowercase tag = "oneof")
      (found : entries.get? "rules" = some (.list items)) (some : items ≠ [])
      (each : List.Forall₂ Denotes items rules) (weighs : entries.Weighs items.length weights) :
      Denotes (.mapping entries) (.oneOf (weights.zip rules))
  | when {entries : Entries} {tag name value : String} {property : CarProperty} {token : Token}
      {rule : Rule} (type : entries.Says "type" tag) (form : lowercase tag = "if")
      (tested : entries.Says "property" name) (named : property.IsNamed name)
      (wanted : entries.Says "value" value) (found : entries.get? "rule" = some token)
      (inside : Denotes token rule) : Denotes (.mapping entries) (.when property value rule)
  | sound {entries : Entries} {tag name : String} (type : entries.Says "type" tag)
      (form : lowercase tag = "sound") (named : entries.Says "name" name) :
      Denotes (.mapping entries) (.sound name)
  | ref {entries : Entries} {tag name : String} (type : entries.Says "type" tag)
      (form : lowercase tag = "ref") (named : entries.Says "name" name) :
      Denotes (.mapping entries) (.ref name)

/-- The tag of a form in lower case. -/
def RuleKind.tag : RuleKind → String
  | .allOf => "allof"
  | .oneOf => "oneof"
  | .when => "if"
  | .sound => "sound"
  | .ref => "ref"

/-- The names of forms come to their tags in lower case. -/
theorem RuleKind.lowercase_name (kind : RuleKind) : lowercase kind.name = kind.tag := by
  -- Each of the five names is computed.
  cases kind <;> decide +kernel

/-- A form is found by its tag and by no other. -/
theorem RuleKind.ofName?_eq_some_iff {name : String} {kind : RuleKind} :
    ofName? name = some kind ↔ lowercase name = kind.tag := by
  -- No two forms have the same tag, so the first one found in the list of all is the only one.
  have every : ∀ kind : RuleKind, kind ∈ all := by
    intro kind
    cases kind <;> decide
  have apart : ∀ kind ∈ all, ∀ other ∈ all, lowercase kind.name = lowercase other.name →
      kind = other := by
    simp only [lowercase_name]
    decide
  rw [← lowercase_name]
  exact find?_lowercase_eq_some_iff every apart

/-- No form is found by a text that is the tag of none. -/
theorem RuleKind.ofName?_eq_none_iff {name : String} :
    ofName? name = none ↔ ∀ kind : RuleKind, lowercase name ≠ kind.tag := by
  -- Nothing is found where each of the forms fails to be found.
  simp only [Option.eq_none_iff_forall_ne_some, ne_eq, ofName?_eq_some_iff]

/-- A property is found by its names and by no other text. -/
theorem CarProperty.ofName?_eq_some_iff {name : String} {property : CarProperty} :
    ofName? name = some property ↔ property.IsNamed name := by
  -- No two properties have the same name in lower case, so the first one found is the only one.
  have every : ∀ property : CarProperty, property ∈ all := by
    intro property
    cases property <;> decide
  have apart : ∀ property ∈ all, ∀ other ∈ all,
      lowercase property.name = lowercase other.name → property = other := by decide +kernel
  have named : property.IsNamed name ↔ lowercase name = lowercase property.name := by
    cases property with
    | carType =>
      have lower : lowercase CarProperty.carType.name = "cartype" := by decide +kernel
      rw [IsNamed, lower]
    | skinName =>
      have lower : lowercase CarProperty.skinName.name = "skinname" := by decide +kernel
      rw [IsNamed, lower]
  rw [named]
  exact find?_lowercase_eq_some_iff every apart

/-- Only one token is null. -/
theorem Token.isNull_iff {token : Token} : token.isNull ↔ token = .scalar .null := by
  -- The test is a match on that one token.
  unfold isNull
  split <;> simp_all

/-- Nothing and null look the same under a name. -/
theorem Entries.getD_eq_null_iff {entries : Entries} {name : String} :
    entries.getD name = .scalar .null ↔
      entries.get? name = none ∨ entries.get? name = some (.scalar .null) := by
  -- To look for a name with a default is to search and then to fill in null.
  unfold getD
  cases entries.get? name <;> simp [Token.null]

/-- What is under a name, where that is not null. -/
theorem Entries.getD_eq_iff {entries : Entries} {name : String} (token : Token)
    (notNull : token ≠ .scalar .null) :
    entries.getD name = token ↔ entries.get? name = some token := by
  -- The default is null, which the token is not.
  unfold getD
  cases entries.get? name <;> simp [Token.null, notNull.symm]

/-- A list that is found under a name was written there. -/
theorem Entries.getD_eq_list_iff {entries : Entries} {name : String} {items : List Token} :
    entries.getD name = .list items ↔ entries.get? name = some (.list items) :=
  getD_eq_iff _ nofun

/-- A list under a name is one with items in it or may be left out. -/
theorem Entries.lists_iff {entries : Entries} {name : String} {items : List Token} :
    entries.Lists name items ↔
      entries.getD name = .scalar .null ∧ items = [] ∨ entries.getD name = .list items := by
  -- The three ways of giving a list are the three outcomes of the search.
  rw [getD_eq_null_iff, getD_eq_list_iff]
  constructor
  · rintro (none | null | found)
    · exact .inl ⟨.inl none, rfl⟩
    · exact .inl ⟨.inr null, rfl⟩
    · exact .inr found
  · rintro (⟨none | null, rfl⟩ | found)
    · exact .absent none
    · exact .null null
    · exact .list found

/-- Items of a list under a name were written there. -/
theorem Entries.Lists.found_of_mem {entries : Entries} {name : String} {items : List Token}
    {item : Token} (lists : entries.Lists name items) (member : item ∈ items) :
    entries.get? name = some (.list items) := by
  -- A list that is left out has no items.
  cases lists with
  | absent | null => cases member
  | list found => exact found

namespace Rule

variable {location : Location} {entries : Entries}

/-- A token is read as a text where it is that text. -/
theorem expectText_eq_ok_iff {token : Token} {text : String} :
    expectText location token = .ok text ↔ token = .scalar (.text text) := by
  -- Only one form of token is taken for a text.
  unfold expectText
  split <;> simp_all

/-- Numbers that are finite are read as what they are. -/
theorem expectNumber_eq_ok_iff {token : Token} {number : Binary64} (finite : number.isFinite) :
    expectNumber location token = .ok number ↔ token.IsNumber number := by
  -- Integers are rounded, and other numbers are taken over as they are.
  constructor
  · intro read
    unfold expectNumber at read
    split at read
    · -- Of whole numbers those are refused whose nearest number is infinite.
      dsimp only at read
      split at read <;> cases read
      exact .int _
    · cases read
      exact .float _
    · cases read
      exact .sharedNan
    · cases read
  · rintro (value | _ | _)
    · simp [expectNumber, finite]
    · rfl
    · rfl

/-- A list is read where each of its items is. -/
theorem readList_eq_ok_iff {α : Type} {read : Location → Token → Except ParseError α}
    {relation : Token → α → Prop} {items : List Token} {values : List α} {position : Nat}
    (each : ∀ location, ∀ item ∈ items, ∀ value ∈ values,
      (read location item = .ok value ↔ relation item value)) :
    readList read location position items = .ok values ↔ List.Forall₂ relation items values := by
  -- The location moves on with the items, and the relation holds whatever it is.
  induction items generalizing values position with
  | nil => simp [readList, eq_comm]
  | cons item rest ih =>
    simp only [readList, bind_eq_ok_iff, List.forall₂_cons_left_iff]
    constructor
    · rintro ⟨value, first, others, read, ⟨⟩⟩
      refine ⟨value, others, (each _ _ List.mem_cons_self _ List.mem_cons_self).mp first, ?_, rfl⟩
      exact (ih fun location item inRest value inOthers =>
        each location item (.tail _ inRest) value (.tail _ inOthers)).mp read
    · rintro ⟨value, others, first, related, rfl⟩
      refine ⟨value, (each _ _ List.mem_cons_self _ List.mem_cons_self).mpr first, others, ?_, rfl⟩
      exact (ih fun location item inRest value inOthers =>
        each location item (.tail _ inRest) value (.tail _ inOthers)).mpr related

/-- A list of texts is read as these texts. -/
theorem readList_expectText_eq_ok_iff {items : List Token} {texts : List String}
    {position : Nat} :
    readList expectText location position items = .ok texts ↔
      items = texts.map fun text => .scalar (.text text) := by
  -- Each item is read on its own, so the items are the texts one by one.
  have each : readList expectText location position items = .ok texts ↔
      List.Forall₂ (fun item text => item = .scalar (.text text)) items texts :=
    readList_eq_ok_iff fun _ _ _ _ _ => expectText_eq_ok_iff
  rw [each, ← List.forall₂_map_right_iff (R := Eq), List.forall₂_eq_eq_eq]

/-- A list of numbers that are finite is read as these numbers. -/
theorem readList_expectNumber_eq_ok_iff {items : List Token} {numbers : List Binary64}
    {position : Nat} (finite : ∀ number ∈ numbers, number.isFinite) :
    readList expectNumber location position items = .ok numbers ↔
      List.Forall₂ Token.IsNumber items numbers :=
  readList_eq_ok_iff fun _ _ _ number member => expectNumber_eq_ok_iff (finite number member)

/-- A field is read as a text where the mapping has that text for it. -/
theorem textField_eq_ok_iff {name text : String} :
    textField location entries name = .ok text ↔ entries.Says name text := by
  -- A text is no null, so it makes no difference whether null or nothing stands for a lack.
  unfold textField
  rw [Entries.Says, ← Entries.getD_eq_iff (.scalar (.text text)) nofun]
  split
  · rename_i null
    simp [null]
  · rw [expectText_eq_ok_iff]

/-- The names of sounds are read where the mapping lists their texts. -/
theorem soundNames_eq_ok_iff {names : List String} :
    soundNames location entries = .ok names ↔
      entries.Lists "sounds" (names.map fun name => .scalar (.text name)) := by
  -- What is under the name is nothing, a list or something else, and only the last is refused.
  rw [Entries.lists_iff, List.map_eq_nil_iff]
  unfold soundNames
  split
  · rename_i null
    simp only [null, Except.ok.injEq, true_and, reduceCtorEq, or_false, eq_comm]
  · rename_i items list
    rw [readList_expectText_eq_ok_iff, list]
    simp
  · rename_i other notNull notList
    constructor
    · nofun
    · rintro (⟨null, -⟩ | list)
      · exact absurd null notNull
      · exact absurd list (notList _)

/-- The property of a condition is read where the mapping names it. -/
theorem property_eq_ok_iff {tested : CarProperty} :
    property location entries = .ok tested ↔
      ∃ name, entries.Says "property" name ∧ tested.IsNamed name := by
  -- The text is read first, and then it is looked up among the properties.
  simp only [property, bind_eq_ok_iff, textField_eq_ok_iff, ← CarProperty.ofName?_eq_some_iff]
  refine exists_congr fun name => and_congr_right fun _ => ?_
  cases CarProperty.ofName? name <;> simp

/-- A choice can be made between some rules with as many weights that can be added up. -/
theorem choiceAt_eq_ok_iff {rules : List Rule} {weights : List Binary64} {rule : Rule} :
    choiceAt location rules weights = .ok rule ↔
      rules ≠ [] ∧ weights.length = rules.length ∧
        (∀ weight ∈ weights, weight.isFinite ∧ .zero < weight) ∧ (totalWeight weights).isFinite ∧
          rule = .oneOf (weights.zip rules) := by
  -- A choice is made where none of its four checks fails.
  have searched : weights.find? (!isWeight ·) = none ↔
      ∀ weight ∈ weights, weight.isFinite ∧ .zero < weight := by
    simp [isWeight]
  -- The checks are made in this order, and any of them can be the one that fails.
  unfold choiceAt choice
  rw [← searched, ← List.isEmpty_eq_false_iff]
  by_cases empty : rules.isEmpty
  · simp [empty]
  by_cases length : weights.length = rules.length
  · cases found : weights.find? (!isWeight ·) with
    | some weight => simp [empty, length, found]
    | none =>
      by_cases total : (totalWeight weights).isFinite <;>
        simp [empty, length, found, total, eq_comm]
  · simp [empty, length]

/-- Even weights are weights. -/
theorem evenWeights_positive {count : Nat} {weight : Binary64}
    (member : weight ∈ evenWeights count) : weight.isFinite ∧ .zero < weight := by
  -- All of them are one.
  rw [List.eq_of_mem_replicate member]
  decide

/-- Weights are read, and a choice is made with them, where the mapping has weights for the rules. -/
theorem weights_choiceAt_eq_ok_iff {rules : List Rule} {rule : Rule} :
    (weights location entries rules.length >>= choiceAt location rules) = .ok rule ↔
      rules ≠ [] ∧ ∃ weights, entries.Weighs rules.length weights ∧
        rule = .oneOf (weights.zip rules) := by
  -- Weights are left out or listed, and either way the choice checks what it is given.
  simp only [bind_eq_ok_iff, choiceAt_eq_ok_iff]
  constructor
  · rintro ⟨given, read, some, length, positive, total, rfl⟩
    refine ⟨some, given, ?_, rfl⟩
    unfold weights at read
    split at read
    · rename_i null
      cases read
      obtain none | null := Entries.getD_eq_null_iff.mp null
      · exact .absent none
      · exact .null null
    · rename_i items list
      refine .list (Entries.getD_eq_list_iff.mp list) ?_ length positive total
      exact (readList_expectNumber_eq_ok_iff fun weight member => (positive weight member).1).mp read
    · cases read
  · rintro ⟨some, given, weighs, rfl⟩
    refine ⟨given, ?_⟩
    unfold weights
    cases weighs with
    -- Even weights pass the checks like any other, as their sum is rounded to a finite number.
    | absent none =>
      rw [Entries.getD_eq_null_iff.mpr (.inl none)]
      exact ⟨rfl, some, by simp, fun _ => evenWeights_positive,
        totalWeight_evenWeights_isFinite _, rfl⟩
    | null null =>
      rw [Entries.getD_eq_null_iff.mpr (.inr null)]
      exact ⟨rfl, some, by simp, fun _ => evenWeights_positive,
        totalWeight_evenWeights_isFinite _, rfl⟩
    | list found each length positive total =>
      rw [Entries.getD_eq_list_iff.mpr found]
      refine ⟨?_, some, length, positive, total, rfl⟩
      exact (readList_expectNumber_eq_ok_iff fun weight member => (positive weight member).1).mpr each

/-- Rules in a list are read like the items of any list. -/
theorem rulesFrom_eq_readList {position : Nat} {items : List Token} :
    rulesFrom location position items = readList ofToken location position items := by
  -- By induction on the items; the two functions are written alike.
  induction items generalizing position with
  | nil => rfl
  | cons item rest ih => simp only [rulesFrom, readList, ih]

/-- The rule in a mapping is read from what is found under `rule`. -/
theorem ruleIn_eq_ok_iff {rule : Rule} :
    ruleIn location entries = .ok rule ↔
      ∃ token, entries.get? "rule" = some token ∧
        ofToken (location.key "rule") token = .ok rule := by
  -- The reader goes through the entries itself, past those under other keys.
  induction entries with
  | nil => simp [ruleIn, Entries.get?]
  | cons entry rest ih =>
    obtain ⟨key, token⟩ := entry
    rw [ruleIn, Entries.get?_cons]
    split
    · simp
    · exact ih

/-- What is read under `rules`, by what is found there. -/
theorem rulesIn_eq {required : Bool} :
    rulesIn location required entries =
      match entries.getD "rules" with
      | .scalar .null =>
        if required then .error (Token.missing "rules" location) else .ok []
      | .list items => readList ofToken (location.key "rules") 0 items
      | other => .error (other.unexpected .list (location.key "rules")) := by
  -- The search for the entry is part of the reading, so it goes by induction on the entries.
  induction entries with
  | nil => rfl
  | cons entry rest ih =>
    obtain ⟨key, token⟩ := entry
    unfold rulesIn Entries.getD
    rw [Entries.get?_cons]
    split
    · cases token with
      | list items => exact rulesFrom_eq_readList
      | scalar value => cases value <;> rfl
      | tuple | set | mapping => rfl
    · exact ih

/-- Where rules may be left out, they are read from the list that the mapping has for them. -/
theorem rulesIn_optional_eq_ok_iff {rules : List Rule} :
    rulesIn location false entries = .ok rules ↔
      ∃ items, entries.Lists "rules" items ∧
        readList ofToken (location.key "rules") 0 items = .ok rules := by
  -- What is under the name is nothing, a list or something else, and only the last is refused.
  simp only [rulesIn_eq, Entries.lists_iff]
  split
  · rename_i null
    simp [null, readList]
  · rename_i items list
    simp [list]
  · rename_i other notNull notList
    constructor
    · nofun
    · rintro ⟨items, ⟨null, -⟩ | list, -⟩
      · exact absurd null notNull
      · exact absurd list (notList _)

/-- Where rules must be there, they are read from the list that was written. -/
theorem rulesIn_required_eq_ok_iff {rules : List Rule} :
    rulesIn location true entries = .ok rules ↔
      ∃ items, entries.get? "rules" = some (.list items) ∧
        readList ofToken (location.key "rules") 0 items = .ok rules := by
  -- What is under the name is nothing, a list or something else, and only the list is read.
  simp only [rulesIn_eq, ← Entries.getD_eq_list_iff]
  split
  · rename_i null
    simp [null]
  · rename_i items list
    simp [list]
  · rename_i other notNull notList
    constructor
    · nofun
    · rintro ⟨items, list, -⟩
      exact absurd list (notList _)

/-- A mapping that is read has the tag of some form. -/
theorem tag_of_ofToken_mapping {rule : Rule} (read : ofToken location (.mapping entries) = .ok rule) :
    ∃ tag, ∃ kind : RuleKind, entries.Says "type" tag ∧ lowercase tag = kind.tag := by
  -- Reading starts with the tag, and then with the form under it.
  simp only [ofToken, bind_eq_ok_iff, textField_eq_ok_iff] at read
  obtain ⟨tag, type, read⟩ := read
  cases found : RuleKind.ofName? tag with
  | none => simp [found] at read
  | some kind => exact ⟨tag, kind, type, RuleKind.ofName?_eq_some_iff.mp found⟩

section

variable {tag : String} {rule : Rule} (type : entries.Says "type" tag)
include type

/-- A sequence is read from a list of rules and a list of texts, either of which may be left out. -/
theorem ofToken_allOf_eq_ok_iff (form : lowercase tag = "allof") :
    ofToken location (.mapping entries) = .ok rule ↔
      ∃ (items : List Token) (rules : List Rule) (names : List String),
        entries.Lists "rules" items ∧
        readList ofToken (location.key "rules") 0 items = .ok rules ∧
        entries.Lists "sounds" (names.map fun name => .scalar (.text name)) ∧
        rule = .allOf (rules ++ names.map .sound) := by
  -- Each field is read by a function whose results are known.
  have kind : RuleKind.ofName? tag = some .allOf := RuleKind.ofName?_eq_some_iff.mpr form
  simp only [ofToken, textField_eq_ok_iff.mpr type, bind_eq_ok_iff, Except.ok.injEq,
    exists_eq_left', kind, rulesIn_optional_eq_ok_iff, soundNames_eq_ok_iff]
  constructor
  · rintro ⟨rules, ⟨items, listed, read⟩, names, sounds, rfl⟩
    exact ⟨items, rules, names, listed, read, sounds, rfl⟩
  · rintro ⟨items, rules, names, listed, read, sounds, rfl⟩
    exact ⟨rules, ⟨items, listed, read⟩, names, sounds, rfl⟩

/-- A choice is read from a list of rules, some at least, and from weights for them. -/
theorem ofToken_oneOf_eq_ok_iff (form : lowercase tag = "oneof") :
    ofToken location (.mapping entries) = .ok rule ↔
      ∃ (items : List Token) (rules : List Rule) (weights : List Binary64),
        entries.get? "rules" = some (.list items) ∧
        readList ofToken (location.key "rules") 0 items = .ok rules ∧ rules ≠ [] ∧
        entries.Weighs rules.length weights ∧ rule = .oneOf (weights.zip rules) := by
  -- Each field is read by a function whose results are known, and the weights once there are rules.
  have kind : RuleKind.ofName? tag = some .oneOf := RuleKind.ofName?_eq_some_iff.mpr form
  have steps : ofToken location (.mapping entries) = .ok rule ↔
      ∃ rules, rulesIn location true entries = .ok rules ∧
        (weights location entries rules.length >>= choiceAt location rules) = .ok rule := by
    simp only [ofToken, textField_eq_ok_iff.mpr type, bind_eq_ok_iff, Except.ok.injEq,
      exists_eq_left', kind]
  simp only [steps, rulesIn_required_eq_ok_iff, weights_choiceAt_eq_ok_iff]
  constructor
  · rintro ⟨rules, ⟨items, found, read⟩, some, weights, weighs, rfl⟩
    exact ⟨items, rules, weights, found, read, some, weighs, rfl⟩
  · rintro ⟨items, rules, weights, found, read, some, weighs, rfl⟩
    exact ⟨rules, ⟨items, found, read⟩, some, weights, weighs, rfl⟩

/-- A condition is read from the name of a property, a value and the rule under it. -/
theorem ofToken_when_eq_ok_iff (form : lowercase tag = "if") :
    ofToken location (.mapping entries) = .ok rule ↔
      ∃ (name value : String) (tested : CarProperty) (token : Token) (inside : Rule),
        entries.Says "property" name ∧ tested.IsNamed name ∧ entries.Says "value" value ∧
        entries.get? "rule" = some token ∧ ofToken (location.key "rule") token = .ok inside ∧
        rule = .when tested value inside := by
  -- A rule has to be given at all; only then is everything else of use.
  have kind : RuleKind.ofName? tag = some .when := RuleKind.ofName?_eq_some_iff.mpr form
  by_cases null : (entries.getD "rule").isNull
  · -- Null is refused before the value is read, and no rule could be read from it either.
    simp only [ofToken, textField_eq_ok_iff.mpr type, bind_eq_ok_iff, Except.ok.injEq,
      exists_eq_left', kind, null, if_true, reduceCtorEq, false_and, exists_false, and_false,
      false_iff]
    rintro ⟨name, value, tested, token, inside, -, -, -, found, read, -⟩
    rw [Entries.getD, found, Option.getD_some, Token.isNull_iff] at null
    simp [null, ofToken] at read
  · simp only [ofToken, textField_eq_ok_iff.mpr type, bind_eq_ok_iff, Except.ok.injEq,
      exists_eq_left', kind, null, Bool.false_eq_true, if_false, property_eq_ok_iff,
      textField_eq_ok_iff, ruleIn_eq_ok_iff]
    constructor
    · rintro ⟨tested, ⟨name, tests, named⟩, value, wanted, inside, ⟨token, found, read⟩, rfl⟩
      exact ⟨name, value, tested, token, inside, tests, named, wanted, found, read, rfl⟩
    · rintro ⟨name, value, tested, token, inside, tests, named, wanted, found, read, rfl⟩
      exact ⟨tested, ⟨name, tests, named⟩, value, wanted, inside, ⟨token, found, read⟩, rfl⟩

/-- A sound is read from its name. -/
theorem ofToken_sound_eq_ok_iff (form : lowercase tag = "sound") :
    ofToken location (.mapping entries) = .ok rule ↔
      ∃ name, entries.Says "name" name ∧ rule = .sound name := by
  -- The name is the one field of this form.
  have kind : RuleKind.ofName? tag = some .sound := RuleKind.ofName?_eq_some_iff.mpr form
  simp only [ofToken, textField_eq_ok_iff.mpr type, bind_eq_ok_iff, Except.ok.injEq,
    exists_eq_left', kind, textField_eq_ok_iff, @eq_comm _ rule]

/-- A reference is read from its name. -/
theorem ofToken_ref_eq_ok_iff (form : lowercase tag = "ref") :
    ofToken location (.mapping entries) = .ok rule ↔
      ∃ name, entries.Says "name" name ∧ rule = .ref name := by
  -- The name is the one field of this form.
  have kind : RuleKind.ofName? tag = some .ref := RuleKind.ofName?_eq_some_iff.mpr form
  simp only [ofToken, textField_eq_ok_iff.mpr type, bind_eq_ok_iff, Except.ok.injEq,
    exists_eq_left', kind, textField_eq_ok_iff, @eq_comm _ rule]

end

/-- A token is read as the rules that it denotes and as no others, wherever it is said to be. -/
def ReadAsDenoted (token : Token) : Prop :=
  ∀ location rule, ofToken location token = .ok rule ↔ Denotes token rule

/-- The rules in a list are those that its items denote, where each item is read as it denotes. -/
theorem readList_ofToken_eq_ok_iff {items : List Token} {rules : List Rule}
    (each : ∀ item ∈ items, ReadAsDenoted item) :
    readList ofToken location 0 items = .ok rules ↔ List.Forall₂ Denotes items rules :=
  readList_eq_ok_iff fun location item member rule _ => each item member location rule

/-- Items beside rules are none only where the rules are none. -/
theorem ne_nil_iff_of_forall₂ {items : List Token} {rules : List Rule}
    (each : List.Forall₂ Denotes items rules) : items ≠ [] ↔ rules ≠ [] := by
  -- The two lists are empty together.
  cases each <;> simp

/-- A token that is not a mapping denotes a rule only as the name of one. -/
theorem readAsDenoted_of_not_mapping {token : Token}
    (notMapping : ∀ entries, token ≠ .mapping entries) : ReadAsDenoted token := by
  -- A text is read as the name of a rule, and nothing else is read.
  intro location rule
  cases token with
  | mapping entries => exact absurd rfl (notMapping entries)
  | list | tuple | set => exact ⟨nofun, nofun⟩
  | scalar value =>
    constructor
    · intro read
      cases value with
      | text name =>
        cases read
        exact .name
      | _ => cases read
    · intro denotes
      cases denotes with
      | name => rfl

section

variable {rule : Rule}
  (inside : ∀ name token, entries.get? name = some token → ReadAsDenoted token)
  (listed : ∀ name items, entries.get? name = some (.list items) →
    ∀ item ∈ items, ReadAsDenoted item)
include inside listed

/-- A mapping denotes what is read from it, where that is so for the tokens in it. -/
theorem denotes_of_ofToken_mapping (read : ofToken location (.mapping entries) = .ok rule) :
    Denotes (.mapping entries) rule := by
  -- The tag names one form, and its fields are what the grammar asks for.
  obtain ⟨tag, kind, type, form⟩ := tag_of_ofToken_mapping read
  cases kind with
  | allOf =>
    obtain ⟨items, rules, names, lists, each, sounds, rfl⟩ :=
      (ofToken_allOf_eq_ok_iff type form).mp read
    have denoted : List.Forall₂ Denotes items rules :=
      (readList_ofToken_eq_ok_iff fun item member =>
        listed _ items (lists.found_of_mem member) item member).mp each
    exact .allOf type form lists denoted sounds
  | oneOf =>
    obtain ⟨items, rules, weights, found, each, some, weighs, rfl⟩ :=
      (ofToken_oneOf_eq_ok_iff type form).mp read
    have denoted : List.Forall₂ Denotes items rules :=
      (readList_ofToken_eq_ok_iff (listed _ items found)).mp each
    rw [← denoted.length_eq] at weighs
    exact .oneOf type form found ((ne_nil_iff_of_forall₂ denoted).mpr some) denoted weighs
  | when =>
    obtain ⟨name, value, tested, token, rule, tests, named, wanted, found, part, rfl⟩ :=
      (ofToken_when_eq_ok_iff type form).mp read
    have denoted : Denotes token rule := (inside _ token found _ rule).mp part
    exact .when type form tests named wanted found denoted
  | sound =>
    obtain ⟨name, named, rfl⟩ := (ofToken_sound_eq_ok_iff type form).mp read
    exact .sound type form named
  | ref =>
    obtain ⟨name, named, rfl⟩ := (ofToken_ref_eq_ok_iff type form).mp read
    exact .ref type form named

/-- What a mapping denotes is read from it, where that is so for the tokens in it. -/
theorem ofToken_mapping_of_denotes (denotes : Denotes (.mapping entries) rule) :
    ofToken location (.mapping entries) = .ok rule := by
  -- The grammar has one case for each form, which gives the fields that are read.
  cases denotes with
  | allOf type form lists denoted sounds =>
    have each : readList ofToken (location.key "rules") 0 _ = .ok _ :=
      (readList_ofToken_eq_ok_iff fun item member =>
        listed _ _ (lists.found_of_mem member) item member).mpr denoted
    exact (ofToken_allOf_eq_ok_iff type form).mpr ⟨_, _, _, lists, each, sounds, rfl⟩
  | oneOf type form found some denoted weighs =>
    have each : readList ofToken (location.key "rules") 0 _ = .ok _ :=
      (readList_ofToken_eq_ok_iff (listed _ _ found)).mpr denoted
    rw [denoted.length_eq] at weighs
    exact (ofToken_oneOf_eq_ok_iff type form).mpr
      ⟨_, _, _, found, each, (ne_nil_iff_of_forall₂ denoted).mp some, weighs, rfl⟩
  | when type form tests named wanted found denoted =>
    have part := (inside _ _ found (location.key "rule") _).mpr denoted
    exact (ofToken_when_eq_ok_iff type form).mpr
      ⟨_, _, _, _, _, tests, named, wanted, found, part, rfl⟩
  | sound type form named => exact (ofToken_sound_eq_ok_iff type form).mpr ⟨_, named, rfl⟩
  | ref type form named => exact (ofToken_ref_eq_ok_iff type form).mpr ⟨_, named, rfl⟩

end

/-- Every token is read as it denotes. -/
theorem readAsDenoted (token : Token) : ReadAsDenoted token := by
  -- The rules inside a rule are read from what stands under names, or in lists under names.
  induction token using Token.induction with
  | other token notMapping => exact readAsDenoted_of_not_mapping notMapping
  | mapping entries inside listed =>
    intro location rule
    constructor
    · exact denotes_of_ofToken_mapping inside listed
    · exact ofToken_mapping_of_denotes inside listed

/--
The reader accepts exactly the tokens of the grammar, and gives the rule that each denotes.

This is so for tokens of any form and depth, and for any location that a token is said to be at.
-/
theorem ofToken_eq_ok_iff_denotes (location : Location) (token : Token) (rule : Rule) :
    ofToken location token = .ok rule ↔ Denotes token rule :=
  readAsDenoted token location rule

end Rule

end LocoSounds
