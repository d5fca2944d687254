import LocoSounds.Proofs.Rule.Reading

/-! What building a registry can come to: the errors of reading a document, and their places. -/

namespace LocoSounds

/-- Where items are read in turn and that fails, one of them cannot be read. -/
theorem failing_of_mapM {ε α β : Type} {read : α → Except ε β} {items : List α} {error : ε}
    (failed : items.mapM read = .error error) : ∃ item ∈ items, read item = .error error := by
  -- The items before the failing one are read; here only the failing one matters.
  obtain ⟨before, item, after, rfl, _, failed⟩ := mapM_eq_error_iff.mp failed
  exact ⟨item, List.mem_append_cons_self, failed⟩

/-- The written form goes on from the name of the starting point. -/
theorem Location.text_ne_empty {location : Location} (named : location.base ≠ "") :
    location.text ≠ "" := by
  -- Each step puts a text after what is written so far.
  obtain ⟨base, steps⟩ := location
  unfold text
  induction steps generalizing base with
  | nil => exact named
  | cons step rest ih =>
    refine ih (base ++ step.text) fun empty => named ?_
    exact (String.append_eq_empty_iff.mp empty).1

/-- An error says that something at a location, or at a place that steps from it come to, has the
wrong shape. -/
def ParseError.Below (error : ParseError) (location : Location) : Prop :=
  ∃ fault steps, error = .malformed fault (location.through steps)

/-- An error lies in a token at a location: something from there on has the wrong shape, or a whole
number in a list of weights has no finite number near it. -/
inductive ParseError.LiesIn (error : ParseError) (location : Location) (token : Token) : Prop where
  | below (place : error.Below location)
  | tooLarge {steps : List Step} {position : Nat} {value : Int} (same : error = .numberTooLarge)
      (leads : token.Leads steps (.scalar (.int value)))
      (weight : [.key "weights", .item position] <:+ steps)
      (infinite : ¬ (Binary64.ofInt value).isFinite)

/-- A token is a mapping of which a key is an integer of too many digits to be written. -/
inductive Token.HasLongKey : Token → Prop where
  | key {entries : Entries} {value : Int} {token : Token}
      (member : (.int value, token) ∈ entries) (unwritten : integerText? value = none) :
      HasLongKey (.mapping entries)

/-- A mapping is not null. -/
theorem Token.HasLongKey.given {token : Token} (long : token.HasLongKey) : token ≠ .scalar .null := by
  -- The key stands in a mapping.
  cases long
  exact nofun

/-- Of scalars only integers of too many digits have no written form. -/
theorem Scalar.plain?_eq_none_iff {key : Scalar} :
    key.plain? = none ↔ ∃ value, key = .int value ∧ integerText? value = none := by
  -- Each other scalar is written by its own rule, which always gives a text.
  cases key with
  | int value => simp [plain?, literal?]
  | bool value => cases value <;> simp [plain?, literal?]
  | _ => simp [plain?, literal?]

/-- What is led to from the value under a name is led to from the mapping, unless it is absent. -/
theorem Token.Leads.under {entries : Entries} {name : String} {part : Token} {steps : List Step}
    (leads : (Entries.getD entries name).Leads steps part) (given : part ≠ .scalar .null) :
    (Token.mapping entries).Leads (.key name :: steps) part := by
  -- Without an entry there is only null, which leads to nothing but itself.
  unfold Entries.getD at leads
  cases found : entries.get? name with
  | none =>
    rw [found] at leads
    exact absurd (Token.leads_scalar_iff.mp leads).2 given
  | some token =>
    rw [found] at leads
    exact .key (Entries.mem_of_get? found) leads

section

variable {location : Location} {error : ParseError}

/-- The location itself is the nearest place. -/
theorem ParseError.below_malformed (fault : ParseFault) (location : Location) :
    (ParseError.malformed fault location).Below location :=
  ⟨fault, [], by rw [Location.through_nil]⟩

/-- What lies below the value under a key lies below the value around it. -/
theorem ParseError.Below.key {name : String} (below : error.Below (location.key name)) :
    error.Below location := by
  -- One more step is put in front of those that lead to the error.
  obtain ⟨fault, steps, rfl⟩ := below
  exact ⟨fault, _, by rw [Location.key_through]⟩

/-- What lies below an item lies below the list around it. -/
theorem ParseError.Below.item {position : Nat} (below : error.Below (location.item position)) :
    error.Below location := by
  -- One more step is put in front of those that lead to the error.
  obtain ⟨fault, steps, rfl⟩ := below
  exact ⟨fault, _, by rw [Location.item_through]⟩

/-- An error in what stands under a name lies in the mapping around it. -/
theorem ParseError.LiesIn.key {entries : Entries} {name : String} {inner : Token}
    (member : (.text name, inner) ∈ entries) (lies : error.LiesIn (location.key name) inner) :
    error.LiesIn location (.mapping entries) := by
  -- Either kind of error stays what it is when one more step leads to it, through the name.
  cases lies with
  | below place => exact .below place.key
  | tooLarge same leads weight infinite =>
    exact .tooLarge same (.key member leads) (weight.trans (List.suffix_cons _ _)) infinite

/-- An error in an item lies in the list around it. -/
theorem ParseError.LiesIn.item {items : List Token} {position : Nat} {inner : Token}
    (found : items[position]? = some inner) (lies : error.LiesIn (location.item position) inner) :
    error.LiesIn location (.list items) := by
  -- Either kind of error stays what it is when one more step leads to it, through the position.
  cases lies with
  | below place => exact .below place.item
  | tooLarge same leads weight infinite =>
    exact .tooLarge same (.item found leads) (weight.trans (List.suffix_cons _ _)) infinite

end

namespace Rule

variable {location : Location} {entries : Entries} {error : ParseError}

/-- Where tokens of a list are not read, one of them is not read at its own place. -/
theorem failing_of_readList {α : Type} {read : Location → Token → Except ParseError α}
    {items : List Token} {position : Nat}
    (failed : readList read location position items = .error error) :
    ∃ (index : Nat) (item : Token), items[index]? = some item ∧
      read (location.item (position + index)) item = .error error := by
  -- The list is read up to the first token that fails, whose index is counted from the start.
  obtain ⟨index, item, found, _, failed⟩ := readList_eq_error_iff.mp failed
  exact ⟨index, item, found, failed⟩

/-- A token that is no text is what is at fault. -/
theorem below_of_expectText {token : Token} (failed : expectText location token = .error error) :
    error.Below location := by
  -- Only a text is expected, and any other token is what is reported.
  unfold expectText at failed
  split at failed <;> cases failed
  exact ParseError.below_malformed _ _

/-- A field without a text is at fault itself, or is missing from the mapping that is. -/
theorem below_of_textField {name : String}
    (failed : textField location entries name = .error error) : error.Below location := by
  -- A field that is absent is the fault of the mapping, a field of another kind its own.
  unfold textField at failed
  split at failed
  · cases failed
    exact ParseError.below_malformed _ _
  · exact (below_of_expectText failed).key

/-- What cannot be read as names of sounds is no list, or an item in it is no text. -/
theorem below_of_soundNames (failed : soundNames location entries = .error error) :
    error.Below location := by
  -- No list is reported under its name, and an item that is no text under its position.
  unfold soundNames at failed
  split at failed
  · cases failed
  · obtain ⟨_, _, _, failed⟩ := failing_of_readList failed
    exact (below_of_expectText failed).item.key
  · cases failed
    exact (ParseError.below_malformed _ _).key

/-- A property that cannot be read is at fault. -/
theorem below_of_property (failed : property location entries = .error error) :
    error.Below location := by
  -- The property is no text, or it is a text that names none.
  obtain unnamed | ⟨name, _, failed⟩ := bind_eq_error_iff.mp failed
  · exact below_of_textField unnamed
  · split at failed <;> cases failed
    exact (ParseError.below_malformed _ _).key

/-- Rules and weights that are no choice are at fault together. -/
theorem below_of_choiceAt {rules : List Rule} {weights : List Binary64}
    (failed : choiceAt location rules weights = .error error) : error.Below location := by
  -- A choice is refused as a whole, whichever of its conditions fails.
  unfold choiceAt at failed
  split at failed <;> cases failed
  exact ParseError.below_malformed _ _

/-- A number that is not read has the wrong shape, or is a whole number that is too large. -/
theorem below_or_tooLarge_of_expectNumber {token : Token}
    (failed : expectNumber location token = .error error) :
    error.Below location ∨ error = .numberTooLarge ∧
      ∃ value, token = .scalar (.int value) ∧ ¬ (Binary64.ofInt value).isFinite := by
  -- Only the first case has an error of its own, the nearest number being infinite.
  unfold expectNumber at failed
  split at failed
  · rename_i value
    dsimp only at failed
    split at failed <;> cases failed
    rename_i infinite
    exact .inr ⟨rfl, value, rfl, infinite⟩
  · cases failed
  · cases failed
  · cases failed
    exact .inl (ParseError.below_malformed _ _)

/-- An error in the weights of a mapping lies in that mapping. -/
theorem liesIn_of_weights {count : Nat} (failed : weights location entries count = .error error) :
    error.LiesIn location (.mapping entries) := by
  -- The weights are absent, a list of numbers, or reported under their name.
  unfold weights at failed
  split at failed
  · cases failed
  · rename_i items list
    obtain ⟨index, item, found, failed⟩ := failing_of_readList failed
    obtain below | ⟨same, value, rfl, infinite⟩ := below_or_tooLarge_of_expectNumber failed
    · exact .below below.item.key
    · -- The steps to the weight are to the list and to the position in it.
      have listed := Entries.mem_of_get? (Entries.getD_eq_list_iff.mp list)
      exact .tooLarge same (.key listed (.item found .here)) List.suffix_rfl infinite
  · cases failed
    exact .below (ParseError.below_malformed _ _).key

/-- The rule in a mapping is missing or is what cannot be read. -/
theorem failing_of_ruleIn (failed : ruleIn location entries = .error error) :
    error = Token.missing "rule" location ∨
      ∃ token, entries.get? "rule" = some token ∧
        ofToken (location.key "rule") token = .error error := by
  -- The rule is read in place where there is one.
  rw [ruleIn_eq] at failed
  split at failed
  · rename_i token found
    exact .inr ⟨token, found, failed⟩
  · cases failed
    exact .inl rfl

/-- The rules in a mapping are missing, are no list, or one of them cannot be read. -/
theorem failing_of_rulesIn {required : Bool}
    (failed : rulesIn location required entries = .error error) :
    error.Below location ∨
      ∃ (items : List Token) (index : Nat) (item : Token),
        entries.get? "rules" = some (.list items) ∧ items[index]? = some item ∧
          ofToken ((location.key "rules").item index) item = .error error := by
  -- Null is an error only where rules are required, a list has the errors of its items.
  rw [rulesIn_eq] at failed
  split at failed
  · split at failed <;> cases failed
    exact .inl (ParseError.below_malformed _ _)
  · rename_i items list
    obtain ⟨index, item, found, failed⟩ := failing_of_readList failed
    rw [Nat.zero_add] at failed
    exact .inr ⟨items, index, item, Entries.getD_eq_list_iff.mp list, found, failed⟩
  · cases failed
    exact .inl (ParseError.below_malformed _ _).key

/-- Wherever a token is read as a rule, an error of doing so lies in the token. -/
def PlacesErrors (token : Token) : Prop :=
  ∀ location error, ofToken location token = .error error → error.LiesIn location token

/-- An error in the rule under a mapping lies in the mapping. -/
theorem liesIn_of_ruleIn
    (under : ∀ token, entries.get? "rule" = some token → PlacesErrors token)
    (failed : ruleIn location entries = .error error) :
    error.LiesIn location (.mapping entries) := by
  -- The error is that nothing is there, or one of reading what is there.
  obtain missing | ⟨token, found, failed⟩ := failing_of_ruleIn failed
  · rw [missing]
    exact .below (ParseError.below_malformed _ _)
  · exact (under token found _ _ failed).key (Entries.mem_of_get? found)

/-- An error in the rules of a mapping lies in the mapping. -/
theorem liesIn_of_rulesIn {required : Bool}
    (each : ∀ items, entries.get? "rules" = some (.list items) → ∀ item ∈ items, PlacesErrors item)
    (failed : rulesIn location required entries = .error error) :
    error.LiesIn location (.mapping entries) := by
  -- The list itself is at fault, or one of the rules in it.
  obtain below | ⟨items, index, item, list, found, failed⟩ := failing_of_rulesIn failed
  · exact .below below
  · have lies := each items list item (List.mem_of_getElem? found) _ _ failed
    exact (lies.item found).key (Entries.mem_of_get? list)

/-- An error of reading a mapping lies in it, once those of reading the rules inside it do. -/
theorem placesErrors_mapping
    (under : ∀ token, entries.get? "rule" = some token → PlacesErrors token)
    (each : ∀ items, entries.get? "rules" = some (.list items) →
      ∀ item ∈ items, PlacesErrors item) :
    PlacesErrors (.mapping entries) := by
  -- The form is found by its tag first, and its fields are then read one after another.
  intro location error failed
  rw [ofToken] at failed
  -- Each form reads its fields in turn, and the first one that cannot be read gives the error.
  obtain untagged | ⟨tag, _, failed⟩ := bind_eq_error_iff.mp failed
  · exact .below (below_of_textField untagged)
  split at failed
  case h_1 =>
    cases failed
    exact .below (ParseError.below_malformed _ _)
  case h_2 =>
    obtain inner | ⟨rules, _, failed⟩ := bind_eq_error_iff.mp failed
    · exact liesIn_of_rulesIn each inner
    obtain unnamed | ⟨_, _, done⟩ := bind_eq_error_iff.mp failed
    · exact .below (below_of_soundNames unnamed)
    · cases done
  case h_3 =>
    obtain inner | ⟨rules, _, failed⟩ := bind_eq_error_iff.mp failed
    · exact liesIn_of_rulesIn each inner
    obtain unweighed | ⟨weights, _, failed⟩ := bind_eq_error_iff.mp failed
    · exact liesIn_of_weights unweighed
    · exact .below (below_of_choiceAt failed)
  case h_4 =>
    obtain unnamed | ⟨property, _, failed⟩ := bind_eq_error_iff.mp failed
    · exact .below (below_of_property unnamed)
    split at failed
    · cases failed
      exact .below (ParseError.below_malformed _ _)
    obtain unvalued | ⟨value, _, failed⟩ := bind_eq_error_iff.mp failed
    · exact .below (below_of_textField unvalued)
    obtain inner | ⟨rule, _, done⟩ := bind_eq_error_iff.mp failed
    · exact liesIn_of_ruleIn under inner
    · cases done
  case h_5 | h_6 =>
    obtain unnamed | ⟨name, _, done⟩ := bind_eq_error_iff.mp failed
    · exact .below (below_of_textField unnamed)
    · cases done

/-- An error of reading a rule lies in the token of the rule. -/
theorem placesErrors (token : Token) : PlacesErrors token := by
  -- The readers go down to what stands under a name, or in a list under one.
  induction token using Token.induction with
  | mapping entries under items =>
    exact placesErrors_mapping (fun token => under "rule" token) fun list => items "rules" list
  | other token notMapping =>
    intro location error failed
    unfold ofToken at failed
    split at failed
    · cases failed
    · exact absurd rfl (notMapping _)
    · cases failed
      exact .below (ParseError.below_malformed _ _)

end Rule

namespace Sound

variable {location : Location} {entries : Entries} {error : ParseError}

/-- A key that is no text is at fault. -/
theorem below_of_checkTexts (failed : checkTexts location entries = .error error) :
    error.Below location := by
  -- The keys are checked in order, and the first one that is no text is what is reported.
  unfold checkTexts at failed
  dsimp only at failed
  split at failed <;> cases failed
  exact ParseError.below_malformed _ _

/-- What is no slot is at fault, or missing from what is. -/
theorem below_of_slotField (failed : slotField location entries = .error error) :
    error.Below location := by
  -- A slot is missing, is neither text nor bytes, or names none; each of these is reported.
  unfold slotField at failed
  dsimp only at failed
  split at failed
  · cases failed
    exact (ParseError.below_malformed _ _).key
  · split at failed <;> cases failed
    exact (ParseError.below_malformed _ _).key
  · split at failed <;> cases failed
    exact (ParseError.below_malformed _ _).key
  · cases failed
    exact (ParseError.below_malformed _ _).key

/-- A file name that cannot be read is at fault. -/
theorem below_of_fileNames {items : List Token} {position : Nat}
    (failed : fileNames location position items = .error error) : error.Below location := by
  -- By induction on the file names; each is read at its own position.
  induction items generalizing position with
  | nil => cases failed
  | cons item rest ih =>
    rw [fileNames] at failed
    split at failed
    · cases failed
      exact (ParseError.below_malformed _ _).key
    · obtain later | ⟨_, _, done⟩ := bind_eq_error_iff.mp failed
      · exact ih later
      · cases done

/-- Files that cannot be read are at fault. -/
theorem below_of_filesField (failed : filesField location entries = .error error) :
    error.Below location := by
  -- A list that is missing, is no list or is empty is at fault itself, else one of its names is.
  unfold filesField at failed
  dsimp only at failed
  split at failed
  · cases failed
    exact (ParseError.below_malformed _ _).key
  · split at failed
    · cases failed
      exact (ParseError.below_malformed _ _).key
    · cases failed
      exact (ParseError.below_malformed _ _).key
    · exact (below_of_fileNames failed).key

/-- A number that cannot be read is at fault. -/
theorem below_of_numberField {field : NumberField}
    (failed : numberField location entries field = .error error) : error.Below location := by
  -- A number that is absent is no error, and one that cannot be read is reported under its name.
  unfold numberField at failed
  dsimp only at failed
  split at failed
  · cases failed
  · split at failed <;> cases failed
    exact (ParseError.below_malformed _ _).key

/-- A key that no field has is at fault. -/
theorem below_of_checkKeys {known : List String}
    (failed : checkKeys location known entries = .error error) : error.Below location := by
  -- By induction on the keys, up to the first one that is not known.
  induction entries with
  | nil => cases failed
  | cons entry rest ih =>
    -- A key that is known lets the check go on, any other one ends it.
    unfold checkKeys at failed
    split at failed
    · cases failed
    · rename_i same
      cases same
      split at failed
      · exact ih failed
      · cases failed
        unfold keyLocation
        split
        · exact ParseError.below_malformed _ _
        · exact (ParseError.below_malformed _ _).key
    · cases failed
      exact (ParseError.below_malformed _ _).key

/-- Pitches that are no range are at fault together. -/
theorem below_of_checkPitchRange {sound : Sound}
    (failed : checkPitchRange location sound = .error error) : error.Below location := by
  -- Only two pitches that are both given and in the wrong order are reported.
  unfold checkPitchRange at failed
  split at failed
  · split at failed <;> cases failed
    exact ParseError.below_malformed _ _
  · cases failed

/-- An error of reading a sound has its place in the sound. -/
theorem below_of_ofToken {name : String} {token : Token}
    (failed : ofToken location name token = .error error) : error.Below location := by
  -- Ten checks follow one another, and each of them reports what lies below the sound.
  cases token with
  | mapping entries =>
    rw [ofToken] at failed
    -- The fields are checked one after the other, and the first one at fault is what is reported.
    obtain unreadable | ⟨_, _, failed⟩ := bind_eq_error_iff.mp failed
    · exact below_of_checkTexts unreadable
    obtain unslotted | ⟨slot, _, failed⟩ := bind_eq_error_iff.mp failed
    · exact below_of_slotField unslotted
    obtain noFiles | ⟨filenames, _, failed⟩ := bind_eq_error_iff.mp failed
    · exact below_of_filesField noFiles
    obtain noNumber | ⟨pitch, _, failed⟩ := bind_eq_error_iff.mp failed
    · exact below_of_numberField noNumber
    obtain noNumber | ⟨minPitch, _, failed⟩ := bind_eq_error_iff.mp failed
    · exact below_of_numberField noNumber
    obtain noNumber | ⟨maxPitch, _, failed⟩ := bind_eq_error_iff.mp failed
    · exact below_of_numberField noNumber
    obtain noNumber | ⟨fadeStart, _, failed⟩ := bind_eq_error_iff.mp failed
    · exact below_of_numberField noNumber
    obtain noNumber | ⟨fadeWidth, _, failed⟩ := bind_eq_error_iff.mp failed
    · exact below_of_numberField noNumber
    obtain unknown | ⟨_, _, failed⟩ := bind_eq_error_iff.mp failed
    · exact below_of_checkKeys unknown
    · exact below_of_checkPitchRange failed
  | _ =>
    cases failed
    exact ParseError.below_malformed _ _

end Sound

namespace Section

/-- A section whose keys can be written is at fault where it has no entries to give, or one of its keys
is. -/
theorem below_or_keyTooLong_of_entries {part : Section} {token : Token} {error : ParseError}
    (failed : part.entries token = .error error) :
    error.Below (.start part.name) ∨ error = .keyTooLong ∧ token.HasLongKey := by
  -- Keys are looked at one by one, and only a key that is no text is an error.
  unfold entries at failed
  split at failed
  · cases failed
  · obtain ⟨⟨key, inner⟩, member, failed⟩ := failing_of_mapM failed
    have other : ∀ name, key ≠ .text name := by
      rintro name rfl
      cases failed
    rw [part.takeEntry_of_other inner other] at failed
    split at failed
    · cases failed
      exact .inl (ParseError.below_malformed _ _).key
    · rename_i unwritten
      cases failed
      obtain ⟨value, rfl, digits⟩ := Scalar.plain?_eq_none_iff.mp unwritten
      exact .inr ⟨rfl, .key member digits⟩
  · cases failed
    exact .inl (ParseError.below_malformed _ _)

/-- Where values are not read from a section, the section is at fault or one of them is not read. -/
theorem failing_of_entries_bind_mapM {α : Type} (part : Section)
    (read : String → Token → Except ParseError α) {token : Token} {error : ParseError}
    (failed : (part.entries token >>= fun entries => entries.mapM fun entry => do
      let value ← read entry.1 entry.2
      pure (entry.1, value)) = .error error) :
    (error.Below (.start part.name) ∨ error = .keyTooLong ∧ token.HasLongKey) ∨
      ∃ entries name inner, token = .mapping entries ∧ (.text name, inner) ∈ entries ∧
        read name inner = .error error := by
  -- The section is split into names first, and then the values are read one by one.
  obtain unfit | ⟨given, taken, failed⟩ := bind_eq_error_iff.mp failed
  · exact .inl (below_or_keyTooLong_of_entries unfit)
  · obtain ⟨⟨name, inner⟩, member, failed⟩ := failing_of_mapM failed
    obtain unread | ⟨_, _, done⟩ := bind_eq_error_iff.mp failed
    · -- The entry under the name stands in the section, which is a mapping if it has any.
      unfold Section.entries at taken
      split at taken
      · cases taken
        cases member
      · rename_i raw
        have written := forall_mem_of_forall₂ (fun entry => (Scalar.text entry.1, entry.2) ∈ raw)
          (part.entries_mapping_eq_ok_iff.mp taken) (fun entry among value same => same ▸ among)
        exact .inr ⟨raw, name, inner, rfl, written _ member, unread⟩
      · cases taken
    · cases done

end Section

namespace Registry

/-- An error in the rules section lies in that section. -/
theorem liesIn_of_ofSection_rules {token : Token} {error : ParseError}
    (failed : Rule.ofSection token = .error error) :
    error.LiesIn (.start "rules") token ∨ error = .keyTooLong ∧ token.HasLongKey := by
  -- An error of the section is its own, and one of a rule is that of reading a token under its
  -- name.
  obtain (below | long) | ⟨entries, name, inner, rfl, member, unread⟩ :=
    Section.rules.failing_of_entries_bind_mapM Rule.ofEntry failed
  · exact .inl (.below below)
  · exact .inr long
  · exact .inl ((Rule.placesErrors inner _ _ unread).key member)

/-- An error in the sounds section lies below the section. -/
theorem below_of_ofSection_sounds {token : Token} {error : ParseError}
    (failed : Sound.ofSection token = .error error) :
    error.Below (.start "sounds") ∨ error = .keyTooLong ∧ token.HasLongKey := by
  -- An error of the section is its own, and one of a sound has its place below the name.
  obtain unfit | ⟨entries, name, inner, rfl, member, unread⟩ :=
    Section.sounds.failing_of_entries_bind_mapM Sound.ofEntry failed
  · exact unfit
  · exact .inl (Sound.below_of_ofToken unread).key

/-- Of a list of texts each car type is taken over as it stands. -/
theorem readCarTypes_texts (carTypes : List String) :
    readCarTypes (.list (carTypes.map .text)) = .ok (carTypes.map lowercase) := by
  -- A text is its own written form, however long it is.
  have written : (carTypes.map Token.text).mapM Token.plain? = some carTypes := by
    induction carTypes with
    | nil => rfl
    | cons type rest ih => simp [ih, Token.text, Token.plain?, Scalar.plain?]
  simp [readCarTypes, Token.isNull, Token.elements?, carTypesOf?, written]

/-- What building a registry from a document can come to. -/
inductive Outcome (document : Token) : Except BuildError Registry → Prop where
  | built (registry : Registry) : Outcome document (.ok registry)
  | unresolved (error : ResolutionError) : Outcome document (.error (.resolution error))
  | notMapping (other : ∀ entries, document ≠ .mapping entries) :
      Outcome document (.error (.parse (.malformed .documentNotMapping .document)))
  | malformed (fault : ParseFault) (part : Section) (steps : List Step) :
      Outcome document
        (.error (.parse (.malformed fault ((Location.start part.name).through steps))))
  | tooLarge {steps : List Step} {position : Nat} {value : Int}
      (leads : document.Leads (.key "rules" :: steps) (.scalar (.int value)))
      (weight : [.key "weights", .item position] <:+ steps)
      (infinite : ¬ (Binary64.ofInt value).isFinite) :
      Outcome document (.error (.parse .numberTooLarge))
  | keyTooLong (part : Section) {inner : Token}
      (leads : document.Leads [.key part.name] inner) (long : inner.HasLongKey) :
      Outcome document (.error (.parse .keyTooLong))

/-- Sections come to what they come to in the document that they stand in. -/
theorem outcome_build {entries : Entries} (carTypes : List String) :
    Outcome (.mapping entries) (build (Entries.getD entries "rules") (Entries.getD entries "sounds")
      (.list (carTypes.map .text))) := by
  -- The sections are read, then the car types, which a list of texts always gives, and then all
  -- of it is resolved.
  cases outcome : build (Entries.getD entries "rules") (Entries.getD entries "sounds")
    (.list (carTypes.map .text)) with
  | ok registry => exact .built registry
  | error error =>
    obtain unread | ⟨⟨named, voiced⟩, _, failed⟩ := bind_eq_error_iff.mp outcome
    · obtain ⟨fault, failed, rfl⟩ := mapError_eq_error_iff.mp unread
      -- The rules are read before the sounds.
      obtain rules | ⟨_, _, failed⟩ := bind_eq_error_iff.mp failed
      · obtain (⟨fault, steps, rfl⟩ | ⟨rfl, leads, weight, infinite⟩) | ⟨rfl, long⟩ :=
          liesIn_of_ofSection_rules rules
        · exact .malformed fault .rules steps
        · exact .tooLarge (leads.under nofun) weight infinite
        · exact .keyTooLong .rules (Token.Leads.here.under long.given) long
      obtain sounds | ⟨_, _, done⟩ := bind_eq_error_iff.mp failed
      · obtain ⟨fault, steps, rfl⟩ | ⟨rfl, long⟩ := below_of_ofSection_sounds sounds
        · exact .malformed fault .sounds steps
        · exact .keyTooLong .sounds (Token.Leads.here.under long.given) long
      · cases done
    · obtain unlisted | ⟨types, _, failed⟩ := bind_eq_error_iff.mp failed
      · rw [readCarTypes_texts] at unlisted
        cases unlisted
      obtain unresolved | ⟨_, _, done⟩ := bind_eq_error_iff.mp failed
      · obtain ⟨fault, _, rfl⟩ := mapError_eq_error_iff.mp unresolved
        exact .unresolved fault
      · cases done

/--
A document is built, or refused for its shape or for what its rules name, and where it is refused
for its shape a place in one of its sections is given, with a written form.

Two errors are of another kind: that of a whole number among the weights of a choice which has no
finite number near it, and that of a key of a section which is an integer of too many digits, so that
the error of its not being a name cannot be worded.
-/
theorem ofDocument_outcome (document : Token) (carTypes : List String) :
    Outcome document (ofDocument document (.list (carTypes.map .text))) ∧
      ∀ fault location, ofDocument document (.list (carTypes.map .text)) =
          .error (.parse (.malformed fault location)) →
        (location.text = "" ↔ ∀ entries, document ≠ .mapping entries) := by
  -- The first part goes through the stages of building; the second needs only how places are
  -- written.
  have outcome : Outcome document (ofDocument document (.list (carTypes.map .text))) := by
    cases document with
    | mapping entries => exact outcome_build carTypes
    | _ => exact .notMapping nofun
  refine ⟨outcome, fun fault location failed => ?_⟩
  cases document with
  | mapping entries =>
    -- A place in a section is written with the name of the section first.
    have written : location.text ≠ "" := by
      rw [failed] at outcome
      cases outcome with
      | notMapping other => exact absurd rfl (other entries)
      | malformed fault part steps =>
        have named : part.name ≠ "" := by cases part <;> decide
        exact Location.text_ne_empty named
    exact iff_of_false written fun other => other entries rfl
  | _ =>
    cases failed
    exact iff_of_true rfl nofun

/-- A list has no place that could be written, and the key of a rule which is no text has one. -/
theorem ofDocument_places :
    let numbered : Token := .mapping [(.text "rules", .mapping [(.int 3, .text "root")])]
    (∃ fault location, location.text = "" ∧
      ofDocument (.list []) (.list []) = .error (.parse (.malformed fault location))) ∧
    ∃ fault location, location.text ≠ "" ∧
      ofDocument numbered (.list []) = .error (.parse (.malformed fault location)) := by
  -- A list has no section in which a place could be, and a mapping has two.
  intro numbered
  obtain ⟨_, ofList⟩ := ofDocument_outcome (.list []) []
  obtain ⟨_, ofNumbered⟩ := ofDocument_outcome numbered []
  exact ⟨⟨_, _, (ofList _ _ rfl).mpr nofun, rfl⟩,
    ⟨_, _, fun empty => (ofNumbered _ _ rfl).mp empty _ rfl, rfl⟩⟩

/-- A weight past all finite numbers is refused neither for its shape nor for what a rule names. -/
theorem ofDocument_huge_weight :
    let document : Token := .mapping [
      (.text "rules", .mapping [
        (.text "root", .mapping [(.text "type", .text "OneOf"),
          (.text "rules", .list [.text "quiet"]),
          (.text "weights", .list [.scalar (.int (Int.pow 2 1024))])]),
        (.text "quiet", .mapping [(.text "type", .text "AllOf")])]),
      (.text "sounds", .mapping [])]
    ∃ error, ofDocument document (.list []) = .error error ∧
      (∀ fault, error ≠ .resolution fault) ∧
      ∀ fault location, error ≠ .parse (.malformed fault location) := by
  -- The error is computed, and it is neither of the two kinds.
  intro document
  -- Registries are not compared, so only the error is looked at.
  have failed : (ofDocument document (.list [])).map (fun _ => ()) =
      .error (.parse .numberTooLarge) := by decide +kernel
  cases outcome : ofDocument document (.list []) with
  | ok registry =>
    rw [outcome] at failed
    cases failed
  | error error =>
    rw [outcome] at failed
    cases failed
    exact ⟨_, rfl, nofun, nofun⟩

end Registry

end LocoSounds
