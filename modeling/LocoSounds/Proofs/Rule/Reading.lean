import LocoSounds.Proofs.Rule.Fault

/-! Reading the fields of a rule's mapping: what each is refused for. -/

namespace LocoSounds

/-- A name that is lacked is looked up as null. -/
theorem Entries.lacks_iff {entries : Entries} {name : String} :
    entries.Lacks name ↔ entries.getD name = .scalar .null :=
  getD_eq_null_iff.symm

/-- Only texts are wanted as texts. -/
theorem Wanted.fits_text_iff {token : Token} :
    Wanted.text.Fits token ↔ ∃ text, token = .scalar (.text text) := by
  -- Of the ways of fitting one is about texts.
  constructor
  · rintro ⟨⟩
    exact ⟨_, rfl⟩
  · rintro ⟨text, rfl⟩
    exact .text text

/-- Only lists are wanted as lists. -/
theorem Wanted.fits_list_iff {token : Token} :
    Wanted.list.Fits token ↔ ∃ items, token = .list items := by
  -- Of the ways of fitting one is about lists.
  constructor
  · rintro ⟨⟩
    exact ⟨_, rfl⟩
  · rintro ⟨items, rfl⟩
    exact .list items

/-- Names of rules and mappings are wanted as rules. -/
theorem Wanted.fits_rule_iff {token : Token} : Wanted.rule.Fits token ↔
    (∃ name, token = .scalar (.text name)) ∨ ∃ entries, token = .mapping entries := by
  -- Of the ways of fitting two are about rules.
  constructor
  · rintro (name | entries)
    · exact .inl ⟨name, rfl⟩
    · exact .inr ⟨entries, rfl⟩
  · rintro (⟨name, rfl⟩ | ⟨entries, rfl⟩)
    · exact .name name
    · exact .rule entries

/-- The fault of a token of another kind is that of the token itself. -/
theorem Wanted.unfit_iff {wanted : Wanted} {token : Token} {steps : List Step}
    {fault : ParseFault} : wanted.Unfit token steps fault ↔
      steps = [] ∧ ¬ wanted.Fits token ∧ fault = .unexpected token.kindName wanted := by
  -- There is one way to be unfit, at no distance from the token.
  constructor
  · rintro ⟨other⟩
    exact ⟨rfl, other, rfl⟩
  · rintro ⟨rfl, other, rfl⟩
    exact .unfit other

namespace Rule

variable {location place : Location} {entries : Entries} {fault : ParseFault}

/-- The fault of a token that is no text. -/
theorem expectText_eq_malformed_iff {token : Token} :
    expectText location token = .error (.malformed fault place) ↔
      ∃ steps, Wanted.text.Unfit token steps fault ∧ place = location.through steps := by
  -- The function answers a text and refuses every other token where it stands.
  simp only [Wanted.unfit_iff, Wanted.fits_text_iff]
  unfold expectText
  split
  · simp
  · rename_i other
    have unfit : ¬ ∃ text, token = .scalar (.text text) := fun ⟨text, same⟩ => other text same
    simp [Token.unexpected, eq_comm, unfit, and_comm]

/-- The fault of a field that needs a text. -/
theorem textField_eq_malformed_iff {name : String} :
    textField location entries name = .error (.malformed fault place) ↔
      ∃ steps, entries.TextFault name steps fault ∧ place = location.through steps := by
  -- A lacked field is the fault of the mapping, and anything else that of the token found.
  unfold textField
  split
  · rename_i null
    have lacks : entries.Lacks name := Entries.lacks_iff.mpr null
    constructor
    · intro failed
      cases failed
      exact ⟨[], .missing lacks, location.through_nil.symm⟩
    · rintro ⟨_, ⟨_⟩ | ⟨_, given, _⟩, rfl⟩
      · rw [Location.through_nil]
        rfl
      · exact absurd lacks given
  · rename_i notNull
    have given : ¬ entries.Lacks name := fun lacks => notNull (Entries.lacks_iff.mp lacks)
    have found := (Entries.getD_eq_iff _ notNull).mp rfl
    rw [expectText_eq_malformed_iff]
    constructor
    · rintro ⟨_, ⟨other⟩, rfl⟩
      exact ⟨[.key name], .unfit found given other, location.key_through name []⟩
    · rintro ⟨_, ⟨lacks⟩ | ⟨among, _, other⟩, rfl⟩
      · exact absurd lacks given
      · cases found.symm.trans among
        exact ⟨[], .unfit other, (location.key_through name []).symm⟩

/-- A token is read as a number where the nearest number is finite or it is one already. -/
theorem expectNumber_eq_ok_iff_readsAs {token : Token} {number : Binary64} :
    expectNumber location token = .ok number ↔ token.ReadsAs number := by
  -- Four kinds of tokens are told apart, and integers are rounded before they are tested.
  constructor
  · intro read
    unfold expectNumber at read
    split at read
    · -- The nearest number to a whole number may be infinite, and then it is refused.
      dsimp only at read
      split at read <;> cases read
      rename_i finite
      exact .int finite
    · cases read
      exact .float _
    · cases read
      exact .sharedNan
    · cases read
  · rintro (finite | _ | _)
    · simp [expectNumber, finite]
    · rfl
    · rfl

/-- The fault of a token that is no number. -/
theorem expectNumber_eq_malformed_iff {token : Token} :
    expectNumber location token = .error (.malformed fault place) ↔
      ∃ steps, Wanted.number.Unfit token steps fault ∧ place = location.through steps := by
  -- Tokens that are numbers are not refused for their kind, and all others are.
  simp only [Wanted.unfit_iff]
  constructor
  · intro failed
    unfold expectNumber at failed
    split at failed
    · -- A whole number that is too large is an error of its own kind, at no place.
      dsimp only at failed
      split at failed <;> cases failed
    · cases failed
    · cases failed
    · rename_i notInt notFloat notNan
      cases failed
      refine ⟨[], ⟨rfl, ?_, rfl⟩, location.through_nil.symm⟩
      rintro (_ | _ | _ | _ | is)
      cases is with
      | int => exact notInt _ rfl
      | float => exact notFloat _ rfl
      | sharedNan => exact notNan rfl
  · rintro ⟨_, ⟨rfl, other, rfl⟩, rfl⟩
    rw [Location.through_nil]
    unfold expectNumber
    split
    · exact absurd (.number (.int _)) other
    · exact absurd (.number (.float _)) other
    · exact absurd (.number .sharedNan) other
    · rfl

/-- A list is read as numbers where each of its items is. -/
theorem readList_expectNumber_eq_ok_iff_readsAs {items : List Token} {numbers : List Binary64}
    {position : Nat} : readList expectNumber location position items = .ok numbers ↔
      List.Forall₂ Token.ReadsAs items numbers :=
  readList_eq_ok_iff fun _ _ _ _ _ => expectNumber_eq_ok_iff_readsAs

/-- Tokens of a list are not read where one of them is not, and those before it are. -/
theorem readList_eq_error_iff {α : Type} {read : Location → Token → Except ParseError α}
    {error : ParseError} {items : List Token} {position : Nat} :
    readList read location position items = .error error ↔
      ∃ (index : Nat) (item : Token), items[index]? = some item ∧
        (∀ earlier < index, ∀ other, items[earlier]? = some other →
          ∃ value, read (location.item (position + earlier)) other = .ok value) ∧
        read (location.item (position + index)) item = .error error := by
  -- The location moves on with the items, so an index into the rest is one less than in the list.
  induction items generalizing position with
  | nil => simp [readList]
  | cons item rest ih =>
    rw [readList, bind_eq_error_iff]
    constructor
    · rintro (failed | ⟨value, first, later⟩)
      · exact ⟨0, item, rfl, by simp, failed⟩
      · obtain later | ⟨_, _, done⟩ := bind_eq_error_iff.mp later
        · obtain ⟨index, other, found, before, failed⟩ := ih.mp later
          refine ⟨index + 1, other, found, ?_, by rwa [← Nat.add_assoc, Nat.add_right_comm]⟩
          rintro (_ | earlier) less inner among
          · cases among
            exact ⟨value, first⟩
          · rw [← Nat.add_assoc, Nat.add_right_comm]
            exact before earlier (Nat.lt_of_succ_lt_succ less) inner among
        · cases done
    · rintro ⟨_ | index, other, found, before, failed⟩
      · cases found
        exact .inl failed
      · obtain ⟨value, first⟩ := before 0 (Nat.succ_pos _) item rfl
        refine .inr ⟨value, first, bind_eq_error_iff.mpr (.inl (ih.mpr ?_))⟩
        refine ⟨index, other, found, ?_, by rwa [Nat.add_right_comm, Nat.add_assoc]⟩
        intro earlier less inner among
        rw [Nat.add_right_comm, Nat.add_assoc]
        exact before (earlier + 1) (Nat.succ_lt_succ less) inner among

/-- The fault of a list that is found under a name, in its first item that is not read. -/
theorem readList_eq_malformed_iff {α : Type} {read : Location → Token → Except ParseError α}
    {name : String} {items : List Token} {good : Token → Prop}
    {faulty : Token → List Step → ParseFault → Prop}
    (found : entries.get? name = some (.list items))
    (reads : ∀ item ∈ items, ∀ location, (∃ value, read location item = .ok value) ↔ good item)
    (fails : ∀ item ∈ items, ∀ location fault place,
      read location item = .error (.malformed fault place) ↔
        ∃ steps, faulty item steps fault ∧ place = location.through steps) :
    readList read (location.key name) 0 items = .error (.malformed fault place) ↔
      ∃ steps, entries.ListFault good faulty steps fault name ∧
        place = location.through steps := by
  -- The items before the one at fault are read, and its fault lies inside it.
  rw [readList_eq_error_iff]
  simp only [Nat.zero_add]
  constructor
  · rintro ⟨index, item, here, before, failed⟩
    obtain ⟨steps, inside, rfl⟩ := (fails item (List.mem_of_getElem? here) _ _ _).mp failed
    refine ⟨_, .item found here ?_ inside, by simp⟩
    intro earlier less other among
    exact (reads other (List.mem_of_getElem? among) _).mp (before earlier less other among)
  · rintro ⟨_, ⟨again, _, other⟩ | ⟨again, here, before, inside⟩, rfl⟩
    · cases found.symm.trans again
      exact absurd (.list items) other
    · cases found.symm.trans again
      refine ⟨_, _, here, ?_, ?_⟩
      · intro earlier less other among
        exact (reads other (List.mem_of_getElem? among) _).mpr (before earlier less other among)
      · exact (fails _ (List.mem_of_getElem? here) _ _ _).mpr ⟨_, inside, by simp⟩

/-- The items of the list under a name, each read at its own location. -/
def listField {α : Type} (read : Location → Token → Except ParseError α)
    (absent : Except ParseError (List α)) (location : Location) (entries : Entries)
    (name : String) : Except ParseError (List α) :=
  match entries.getD name with
  | .scalar .null => absent
  | .list items => readList read (location.key name) 0 items
  | token => .error (token.unexpected .list (location.key name))

/-- The fault of a list under a name, where it is known when an item is read and which fault it has
otherwise. -/
theorem listField_eq_malformed_iff {α : Type} {read : Location → Token → Except ParseError α}
    {absent : Except ParseError (List α)} {name : String} {good : Token → Prop}
    {faulty : Token → List Step → ParseFault → Prop}
    (reads : ∀ items, entries.get? name = some (.list items) → ∀ item ∈ items, ∀ location,
      (∃ value, read location item = .ok value) ↔ good item)
    (fails : ∀ items, entries.get? name = some (.list items) → ∀ item ∈ items,
      ∀ location fault place, read location item = .error (.malformed fault place) ↔
        ∃ steps, faulty item steps fault ∧ place = location.through steps) :
    listField read absent location entries name = .error (.malformed fault place) ↔
      entries.Lacks name ∧ absent = .error (.malformed fault place) ∨
        ∃ steps, entries.ListFault good faulty steps fault name ∧
          place = location.through steps := by
  -- Nothing is listed, or a list is, or something else that is refused under the name.
  unfold listField
  split
  · -- Nothing is listed, so nothing that is listed can be at fault.
    rename_i null
    have lacks : entries.Lacks name := Entries.lacks_iff.mpr null
    have unlisted : ∀ steps, ¬ entries.ListFault good faulty steps fault name := by
      rintro _ (⟨_, given, _⟩ | ⟨list, _⟩)
      · exact given lacks
      · rw [← Entries.getD_eq_list_iff, null] at list
        cases list
    simp [lacks, unlisted]
  · rename_i items list
    have found := Entries.getD_eq_list_iff.mp list
    have given : ¬ entries.Lacks name := by
      rw [Entries.lacks_iff, list]
      nofun
    simpa [given] using readList_eq_malformed_iff found (reads items found) (fails items found)
  · rename_i notNull notList
    have given : ¬ entries.Lacks name := fun lacks => notNull (Entries.lacks_iff.mp lacks)
    have found := (Entries.getD_eq_iff _ notNull).mp rfl
    have other : ¬ Wanted.list.Fits (entries.getD name) := by
      rw [Wanted.fits_list_iff]
      rintro ⟨items, list⟩
      exact notList items list
    simp only [given, false_and, false_or]
    constructor
    · intro failed
      cases failed
      exact ⟨_, .unfit found given other, rfl⟩
    · rintro ⟨_, ⟨again, _, _⟩ | ⟨list, _⟩, rfl⟩
      · rw [(Entries.getD_eq_iff _ fun null => given (.inr (null ▸ again))).mpr again]
        rfl
      · exact absurd (Entries.getD_eq_list_iff.mpr list) (notList _)

/-- Reading gives some rule where the token denotes one. -/
theorem exists_ofToken_eq_ok_iff {token : Token} :
    (∃ rule, ofToken location token = .ok rule) ↔ token.IsRule :=
  exists_congr fun rule => readAsDenoted token location rule

/-- A token is refused for its first fault, wherever it is said to be. -/
def RefusesFirst (token : Token) : Prop :=
  ∀ location fault place, ofToken location token = .error (.malformed fault place) ↔
    ∃ steps, token.FirstFault steps fault ∧ place = location.through steps

/-- Rules that may be left out are given where those listed are. -/
theorem exists_rulesIn_optional_iff :
    (∃ rules, rulesIn location false entries = .ok rules) ↔
      ∃ items, entries.Lists "rules" items ∧ ∀ item ∈ items, item.IsRule := by
  -- The list is found first, and then each of its items is read.
  simp only [rulesIn_optional_eq_ok_iff]
  rw [exists_comm]
  refine exists_congr fun items => ?_
  rw [exists_and_left]
  refine and_congr_right fun _ => ?_
  simp only [readList_ofToken_eq_ok_iff fun item _ => readAsDenoted item, exists_forall₂_iff]
  rfl

/-- The fault of the rules that a mapping lists. -/
theorem rulesIn_eq_malformed_iff {required : Bool}
    (each : ∀ items, entries.get? "rules" = some (.list items) →
      ∀ item ∈ items, RefusesFirst item) :
    rulesIn location required entries = .error (.malformed fault place) ↔
      (required = true ∧ entries.Lacks "rules" ∧ fault = .missingField "rules" ∧
        place = location) ∨
      ∃ steps, entries.ListFault Token.IsRule Token.FirstFault steps fault "rules" ∧
        place = location.through steps := by
  -- This is the case of a list of rules, which may be required.
  have field : rulesIn location required entries =
      listField ofToken (if required then .error (Token.missing "rules" location) else .ok [])
        location entries "rules" := rulesIn_eq
  have reads : ∀ location item, (∃ rule, ofToken location item = .ok rule) ↔ item.IsRule :=
    fun _ _ => exists_ofToken_eq_ok_iff
  rw [field, listField_eq_malformed_iff (fun _ _ item _ location => reads location item) each]
  refine or_congr_left ?_
  -- Only rules that are required can be missing.
  cases required with
  | true => simp [Token.missing, eq_comm]
  | false => simp

/-- The fault of the sounds that a mapping lists. -/
theorem soundNames_eq_malformed_iff :
    soundNames location entries = .error (.malformed fault place) ↔
      ∃ steps, entries.ListFault Wanted.text.Fits Wanted.text.Unfit steps fault "sounds" ∧
        place = location.through steps := by
  -- This is the case of a list of texts, which may be left out.
  have field : soundNames location entries =
      listField expectText (.ok []) location entries "sounds" := rfl
  have reads : ∀ location item,
      (∃ text, expectText location item = .ok text) ↔ Wanted.text.Fits item := by
    intro location item
    simp only [expectText_eq_ok_iff, Wanted.fits_text_iff]
  rw [field, listField_eq_malformed_iff (fun _ _ item _ location => reads location item)
    fun _ _ _ _ _ _ _ => expectText_eq_malformed_iff]
  simp

/-- The fault of the weights that a mapping lists. -/
theorem weights_eq_malformed_iff {count : Nat} :
    weights location entries count = .error (.malformed fault place) ↔
      ∃ steps, entries.ListFault (fun item => ∃ number, item.ReadsAs number)
        Wanted.number.Unfit steps fault "weights" ∧ place = location.through steps := by
  -- This is the case of a list of numbers, in whose place even weights are taken.
  have field : weights location entries count =
      listField expectNumber (.ok (evenWeights count)) location entries "weights" := rfl
  have reads : ∀ location item, (∃ number, expectNumber location item = .ok number) ↔
      ∃ number, item.ReadsAs number :=
    fun _ _ => exists_congr fun _ => expectNumber_eq_ok_iff_readsAs
  rw [field, listField_eq_malformed_iff (fun _ _ item _ location => reads location item)
    fun _ _ _ _ _ _ _ => expectNumber_eq_malformed_iff]
  simp

/-- Weights are read where a mapping gives them. -/
theorem weights_eq_ok_iff {count : Nat} {given : List Binary64} :
    weights location entries count = .ok given ↔ entries.Gives count given := by
  -- Even weights stand in for missing ones, and listed ones are read item by item.
  constructor
  · intro read
    unfold weights at read
    split at read
    · rename_i null
      cases read
      exact .even (Entries.lacks_iff.mpr null)
    · rename_i items list
      refine .list (Entries.getD_eq_list_iff.mp list) ?_
      exact readList_expectNumber_eq_ok_iff_readsAs.mp read
    · cases read
  · intro gives
    unfold weights
    cases gives with
    | even lacks =>
      rw [Entries.lacks_iff.mp lacks]
      rfl
    | list found each =>
      rw [Entries.getD_eq_list_iff.mpr found]
      exact readList_expectNumber_eq_ok_iff_readsAs.mpr each

/-- The first number that is no weight, and those before it that are. -/
theorem find?_not_isWeight_eq_some_iff {weights : List Binary64} {weight : Binary64} :
    weights.find? (!isWeight ·) = some weight ↔
      ¬ (weight.isFinite ∧ .zero < weight) ∧ ∃ before after, weights = before ++ weight :: after ∧
        ∀ weight ∈ before, weight.isFinite ∧ .zero < weight := by
  -- The search stops at the first weight that fails the test, and the test is decided.
  simp [List.find?_eq_some_iff_append, isWeight, -not_and, not_and_or]

/-- A choice is refused for what keeps it from being made. -/
theorem choice_eq_error_iff {rules : List Rule} {weights : List Binary64} {fault : ChoiceFault} :
    choice rules (some weights) = .error fault ↔ fault.Prevents rules.length weights := by
  -- The four checks follow one another, and each reason includes that the earlier ones passed.
  have none : rules.isEmpty ↔ rules.length = 0 := by simp
  have allGood : weights.find? (!isWeight ·) = .none ↔
      ∀ weight ∈ weights, weight.isFinite ∧ .zero < weight := by
    simp [isWeight]
  constructor
  · -- The reasons are looked for in the order in which they come.
    intro failed
    unfold choice at failed
    split at failed
    · rename_i empty
      cases failed
      exact .noRules (none.mp empty)
    rename_i given
    rw [none] at given
    dsimp only at failed
    split at failed
    · rename_i differ
      cases failed
      exact .countsDiffer given differ
    rename_i same
    rw [not_not] at same
    split at failed
    · rename_i found
      cases failed
      obtain ⟨bad, before, after, written, good⟩ := find?_not_isWeight_eq_some_iff.mp found
      exact .badWeight given same written good bad
    · rename_i found
      split at failed <;> cases failed
      rename_i infinite
      exact .totalTooLarge given same (allGood.mp found) infinite
  · intro prevents
    unfold choice
    cases prevents with
    | noRules empty => rw [if_pos (none.mpr empty)]
    | countsDiffer given differ =>
      rw [if_neg (mt none.mp given)]
      simp [differ]
    | badWeight given same written good bad =>
      have found := find?_not_isWeight_eq_some_iff.mpr ⟨bad, _, _, written, good⟩
      rw [if_neg (mt none.mp given)]
      simp [same, found]
    | totalTooLarge given same good infinite =>
      rw [if_neg (mt none.mp given)]
      simp [same, allGood.mpr good, infinite]

/-- The fault of rules and weights that are read but are no choice. -/
theorem choiceAt_eq_malformed_iff {rules : List Rule} {weights : List Binary64} :
    choiceAt location rules weights = .error (.malformed fault place) ↔
      ∃ prevented : ChoiceFault, prevented.Prevents rules.length weights ∧
        fault = .choice prevented ∧ place = location := by
  -- The fault of a choice is wrapped up with the location, and nothing else is reported.
  simp only [← choice_eq_error_iff]
  unfold choiceAt
  cases choice rules (some weights) <;> simp [eq_comm]

/-- Rules that must be given are read from a list of tokens that all denote one. -/
theorem rulesIn_required_eq_ok_iff_denotes {rules : List Rule} :
    rulesIn location true entries = .ok rules ↔
      ∃ items, entries.get? "rules" = some (.list items) ∧ List.Forall₂ Denotes items rules := by
  -- Each token is read as the rule that it denotes, so the lists correspond.
  rw [rulesIn_required_eq_ok_iff]
  refine exists_congr fun items => and_congr_right fun _ => ?_
  exact readList_ofToken_eq_ok_iff fun item _ => readAsDenoted item

/-- What is read under `rule`, by what is found there. -/
theorem ruleIn_eq : ruleIn location entries = match entries.get? "rule" with
    | some token => ofToken (location.key "rule") token
    | none => .error (Token.missing "rule" location) := by
  -- The reader goes through the entries itself, past those under other keys.
  induction entries with
  | nil => rfl
  | cons entry rest ih =>
    obtain ⟨key, token⟩ := entry
    rw [ruleIn, Entries.get?_cons]
    split
    · rfl
    · exact ih

/-- Some property is read where a mapping names one. -/
theorem exists_property_iff :
    (∃ tested, property location entries = .ok tested) ↔ entries.NamesProperty := by
  -- The name and the property that it stands for are looked for in one order or the other.
  simp only [property_eq_ok_iff]
  exact exists_comm

/-- The fault of the property that a mapping names. -/
theorem property_eq_malformed_iff :
    property location entries = .error (.malformed fault place) ↔
      (∃ steps, entries.TextFault "property" steps fault ∧ place = location.through steps) ∨
      ∃ name, entries.Says "property" name ∧ (∀ property : CarProperty, ¬ property.IsNamed name) ∧
        fault = .noSuchProperty name ∧ place = location.key "property" := by
  -- Either the text is not read, or it is read and names no property.
  rw [property, bind_eq_error_iff, textField_eq_malformed_iff]
  refine or_congr_right ?_
  simp only [textField_eq_ok_iff, ← CarProperty.ofName?_eq_some_iff]
  refine exists_congr fun name => and_congr_right fun _ => ?_
  cases CarProperty.ofName? name <;> simp [eq_comm]

/-- The fault of the rule under a condition, where one is given. -/
theorem ruleIn_eq_malformed_iff (given : ¬ entries.Lacks "rule")
    (inside : ∀ token, entries.get? "rule" = some token → RefusesFirst token) :
    ruleIn location entries = .error (.malformed fault place) ↔
      ∃ token steps, entries.get? "rule" = some token ∧ token.FirstFault steps fault ∧
        place = location.through (.key "rule" :: steps) := by
  -- A rule that is given is found, and then its own first fault is what it is refused for.
  rw [ruleIn_eq]
  cases found : entries.get? "rule" with
  | none => exact absurd (.inl found) given
  | some token =>
    simp only [inside token found _ _ _, Location.key_through, Option.some.injEq, ↓existsAndEq,
      true_and]

end Rule

end LocoSounds
