import LocoSounds.Proofs.Registry.Faults

/-! What can be wrong with a token that is to be a rule, and where in the token it lies. -/

namespace LocoSounds

/-- Nothing stands under a name, or null does. -/
def Entries.Lacks (entries : Entries) (name : String) : Prop :=
  entries.get? name = none ∨ entries.get? name = some (.scalar .null)

/-- A token is of the kind that is wanted of it. -/
inductive Wanted.Fits : Wanted → Token → Prop where
  | name (name : String) : Fits .rule (.scalar (.text name))
  | rule (entries : Entries) : Fits .rule (.mapping entries)
  | list (items : List Token) : Fits .list (.list items)
  | text (text : String) : Fits .text (.scalar (.text text))
  | number {token : Token} {number : Binary64} (is : token.IsNumber number) : Fits .number token

/-- A token is of another kind than the one that is wanted, which is the fault of the token itself. -/
inductive Wanted.Unfit (wanted : Wanted) : Token → List Step → ParseFault → Prop where
  | unfit {token : Token} (other : ¬ wanted.Fits token) :
      Unfit wanted token [] (.unexpected token.kindName wanted)

/-- What is wrong with the text that a mapping needs under a name: it is missing, or something else
stands there. -/
inductive Entries.TextFault (entries : Entries) (name : String) : List Step → ParseFault → Prop where
  | missing (lacks : entries.Lacks name) : TextFault entries name [] (.missingField name)
  | unfit {token : Token} (found : entries.get? name = some token) (given : ¬ entries.Lacks name)
      (other : ¬ Wanted.text.Fits token) :
      TextFault entries name [.key name] (.unexpected token.kindName .text)

/-- What is wrong with the list under a name: something else stands there, or an item of it is at fault
and each item before that one is good. -/
inductive Entries.ListFault (good : Token → Prop)
    (faulty : Token → List Step → ParseFault → Prop) :
    List Step → ParseFault → Entries → String → Prop where
  | unfit {entries : Entries} {name : String} {token : Token}
      (found : entries.get? name = some token) (given : ¬ entries.Lacks name)
      (other : ¬ Wanted.list.Fits token) :
      ListFault good faulty [.key name] (.unexpected token.kindName .list) entries name
  | item {entries : Entries} {name : String} {items : List Token} {position : Nat} {item : Token}
      {steps : List Step} {fault : ParseFault} (list : entries.get? name = some (.list items))
      (here : items[position]? = some item)
      (before : ∀ earlier < position, ∀ other, items[earlier]? = some other → good other)
      (inside : faulty item steps fault) :
      ListFault good faulty (.key name :: .item position :: steps) fault entries name

/-- A token is read as a number. A whole number is one only if the nearest number is finite. -/
inductive Token.ReadsAs : Token → Binary64 → Prop where
  | int {value : Int} (finite : (Binary64.ofInt value).isFinite) :
      ReadsAs (.scalar (.int value)) (.ofInt value)
  | float (value : Binary64) : ReadsAs (.scalar (.float value)) value
  | sharedNan : ReadsAs (.scalar .sharedNan) .nan

/-- The weights that a mapping gives for a number of rules, whether or not they can be weights. -/
inductive Entries.Gives (entries : Entries) (count : Nat) : List Binary64 → Prop where
  | even (lacks : entries.Lacks "weights") : Gives entries count (List.replicate count .one)
  | list {items : List Token} {weights : List Binary64}
      (found : entries.get? "weights" = some (.list items))
      (each : List.Forall₂ Token.ReadsAs items weights) : Gives entries count weights

/-- Why no choice can be made between a number of rules with some weights, the first reason first. -/
inductive ChoiceFault.Prevents (count : Nat) (weights : List Binary64) : ChoiceFault → Prop where
  | noRules (empty : count = 0) : Prevents count weights .noRules
  | countsDiffer (given : count ≠ 0) (differ : weights.length ≠ count) :
      Prevents count weights (.countsDiffer weights.length count)
  | badWeight {before after : List Binary64} {weight : Binary64} (given : count ≠ 0)
      (same : weights.length = count) (written : weights = before ++ weight :: after)
      (good : ∀ weight ∈ before, weight.isFinite ∧ .zero < weight)
      (bad : ¬ (weight.isFinite ∧ .zero < weight)) : Prevents count weights (.badWeight weight)
  | totalTooLarge (given : count ≠ 0) (same : weights.length = count)
      (good : ∀ weight ∈ weights, weight.isFinite ∧ .zero < weight)
      (infinite : ¬ (totalWeight weights).isFinite) : Prevents count weights .totalTooLarge

/-- A fault is one of a token: the token is of another kind, lacks a field or has an unknown tag, is an
unknown name, or has rules and weights between which no choice can be made. -/
inductive ParseFault.Concerns : ParseFault → Token → Prop where
  | unfit {wanted : Wanted} {token : Token} (other : ¬ wanted.Fits token) :
      Concerns (.unexpected token.kindName wanted) token
  | missing {entries : Entries} {name : String} (lacks : entries.Lacks name) :
      Concerns (.missingField name) (.mapping entries)
  | form {entries : Entries} {tag : String} (type : entries.Says "type" tag)
      (other : ∀ kind : RuleKind, lowercase tag ≠ kind.tag) :
      Concerns (.noSuchRuleKind tag) (.mapping entries)
  | property {name : String} (other : ∀ property : CarProperty, ¬ property.IsNamed name) :
      Concerns (.noSuchProperty name) (.scalar (.text name))
  | choice {entries : Entries} {items : List Token} {weights : List Binary64} {fault : ChoiceFault}
      (rules : entries.get? "rules" = some (.list items)) (gives : entries.Gives items.length weights)
      (prevents : fault.Prevents items.length weights) : Concerns (.choice fault) (.mapping entries)

/-- A token denotes some rule. -/
def Token.IsRule (token : Token) : Prop := ∃ rule, Denotes token rule

/-- A mapping names a property to be tested. -/
def Entries.NamesProperty (entries : Entries) : Prop :=
  ∃ (name : String) (property : CarProperty), entries.Says "property" name ∧ property.IsNamed name

mutual

/-- The first fault of a token that is to be a rule, at the end of steps from the token. -/
inductive Token.FirstFault : Token → List Step → ParseFault → Prop where
  | unfit {token : Token} {steps : List Step} {fault : ParseFault}
      (unfit : Wanted.rule.Unfit token steps fault) : Token.FirstFault token steps fault
  | tag {entries : Entries} {steps : List Step} {fault : ParseFault}
      (tag : entries.TextFault "type" steps fault) : Token.FirstFault (.mapping entries) steps fault
  | form {entries : Entries} {tag : String} (type : entries.Says "type" tag)
      (other : ∀ kind : RuleKind, lowercase tag ≠ kind.tag) :
      Token.FirstFault (.mapping entries) [] (.noSuchRuleKind tag)
  | fields {entries : Entries} {tag : String} {kind : RuleKind} {steps : List Step}
      {fault : ParseFault} (type : entries.Says "type" tag) (form : lowercase tag = kind.tag)
      (first : kind.FieldsFault entries steps fault) :
      Token.FirstFault (.mapping entries) steps fault

/-- The first fault among the fields of a form, each of which is looked at only when those before it
are well formed. -/
inductive RuleKind.FieldsFault : RuleKind → Entries → List Step → ParseFault → Prop where
  | rules {kind : RuleKind} {entries : Entries} {steps : List Step} {fault : ParseFault}
      (listing : kind = .allOf ∨ kind = .oneOf)
      (rules : entries.ListFault Token.IsRule Token.FirstFault steps fault "rules") :
      RuleKind.FieldsFault kind entries steps fault
  | sounds {entries : Entries} {items : List Token} {steps : List Step} {fault : ParseFault}
      (rules : entries.Lists "rules" items) (each : ∀ item ∈ items, item.IsRule)
      (sounds : entries.ListFault Wanted.text.Fits Wanted.text.Unfit steps fault "sounds") :
      RuleKind.FieldsFault .allOf entries steps fault
  | noRules {entries : Entries} (lacks : entries.Lacks "rules") :
      RuleKind.FieldsFault .oneOf entries [] (.missingField "rules")
  | weights {entries : Entries} {items : List Token} {steps : List Step} {fault : ParseFault}
      (rules : entries.get? "rules" = some (.list items)) (each : ∀ item ∈ items, item.IsRule)
      (weights : entries.ListFault (fun item => ∃ number, item.ReadsAs number)
        Wanted.number.Unfit steps fault "weights") :
      RuleKind.FieldsFault .oneOf entries steps fault
  | choice {entries : Entries} {items : List Token} {weights : List Binary64} {fault : ChoiceFault}
      (rules : entries.get? "rules" = some (.list items)) (each : ∀ item ∈ items, item.IsRule)
      (gives : entries.Gives items.length weights) (prevents : fault.Prevents items.length weights) :
      RuleKind.FieldsFault .oneOf entries [] (.choice fault)
  | property {entries : Entries} {steps : List Step} {fault : ParseFault}
      (property : entries.TextFault "property" steps fault) :
      RuleKind.FieldsFault .when entries steps fault
  | noProperty {entries : Entries} {name : String} (tested : entries.Says "property" name)
      (other : ∀ property : CarProperty, ¬ property.IsNamed name) :
      RuleKind.FieldsFault .when entries [.key "property"] (.noSuchProperty name)
  | noRule {entries : Entries} (property : entries.NamesProperty) (lacks : entries.Lacks "rule") :
      RuleKind.FieldsFault .when entries [] (.missingField "rule")
  | value {entries : Entries} {steps : List Step} {fault : ParseFault}
      (property : entries.NamesProperty) (given : ¬ entries.Lacks "rule")
      (value : entries.TextFault "value" steps fault) :
      RuleKind.FieldsFault .when entries steps fault
  | rule {entries : Entries} {value : String} {token : Token} {steps : List Step}
      {fault : ParseFault} (property : entries.NamesProperty) (given : ¬ entries.Lacks "rule")
      (value : entries.Says "value" value) (found : entries.get? "rule" = some token)
      (inside : Token.FirstFault token steps fault) :
      RuleKind.FieldsFault .when entries (.key "rule" :: steps) fault
  | name {kind : RuleKind} {entries : Entries} {steps : List Step} {fault : ParseFault}
      (naming : kind = .sound ∨ kind = .ref) (name : entries.TextFault "name" steps fault) :
      RuleKind.FieldsFault kind entries steps fault

end

/-- The fault of a text under a name is that of the text, or of the mapping that lacks it. -/
theorem Entries.TextFault.leads {entries : Entries} {name : String} {steps : List Step}
    {fault : ParseFault} (first : entries.TextFault name steps fault) :
    ∃ part, (Token.mapping entries).Leads steps part ∧ fault.Concerns part := by
  -- Either no step is taken, to the mapping, or one to the text.
  cases first with
  | missing lacks => exact ⟨_, .here, .missing lacks⟩
  | unfit found _ other => exact ⟨_, .key (Entries.mem_of_get? found) .here, .unfit other⟩

/-- The fault of a list under a name is that of the list, or lies in one of its items. -/
theorem Entries.ListFault.leads {good : Token → Prop}
    {faulty : Token → List Step → ParseFault → Prop} {entries : Entries} {name : String}
    {steps : List Step} {fault : ParseFault}
    (first : entries.ListFault good faulty steps fault name)
    (each : ∀ items, entries.get? name = some (.list items) → ∀ item ∈ items, ∀ steps fault,
      faulty item steps fault → ∃ part, item.Leads steps part ∧ fault.Concerns part) :
    ∃ part, (Token.mapping entries).Leads steps part ∧ fault.Concerns part := by
  -- Either one step leads to what is no list, or a second one leads to an item.
  cases first with
  | unfit found _ other => exact ⟨_, .key (Entries.mem_of_get? found) .here, .unfit other⟩
  | item list here _ inside =>
    obtain ⟨part, onward, concerns⟩ := each _ list _ (List.mem_of_getElem? here) _ _ inside
    exact ⟨part, .key (Entries.mem_of_get? list) (.item here onward), concerns⟩

/-- The fault of a token of another kind is that of the token. -/
theorem Wanted.Unfit.leads {wanted : Wanted} {token : Token} {steps : List Step}
    {fault : ParseFault} (unfit : wanted.Unfit token steps fault) :
    ∃ part, token.Leads steps part ∧ fault.Concerns part := by
  -- No step is taken.
  obtain ⟨other⟩ := unfit
  exact ⟨token, .here, .unfit other⟩

/-- The first fault of a token lies at a part of it. -/
theorem Token.FirstFault.leads {token : Token} {steps : List Step} {fault : ParseFault}
    (first : token.FirstFault steps fault) :
    ∃ part, token.Leads steps part ∧ fault.Concerns part := by
  -- By induction on the token, and through the fields of each form of rule.
  induction token using Token.induction generalizing steps fault with
  | other token notMapping =>
    cases first with
    | unfit unfit => exact unfit.leads
    | _ => exact absurd rfl (notMapping _)
  | mapping entries under listed =>
    cases first with
    | unfit unfit => exact unfit.leads
    | tag tag => exact tag.leads
    | form type other => exact ⟨_, .here, .form type other⟩
    | fields type form first =>
      -- Only rules have parts at fault of their own, other fields are at fault themselves.
      cases first with
      | rules _ rules =>
        exact rules.leads fun items list item member _ _ => listed _ items list item member
      | sounds _ _ sounds => exact sounds.leads fun _ _ _ _ _ _ => Wanted.Unfit.leads
      | noRules lacks => exact ⟨_, .here, .missing lacks⟩
      | weights _ _ weights => exact weights.leads fun _ _ _ _ _ _ => Wanted.Unfit.leads
      | choice rules _ gives prevents => exact ⟨_, .here, .choice rules gives prevents⟩
      | property property => exact property.leads
      | noProperty tested other =>
        exact ⟨_, .key (Entries.mem_of_get? tested) .here, .property other⟩
      | noRule _ lacks => exact ⟨_, .here, .missing lacks⟩
      | value _ _ value => exact value.leads
      | rule _ _ _ found inside =>
        obtain ⟨part, onward, concerns⟩ := under _ _ found inside
        exact ⟨part, .key (Entries.mem_of_get? found) onward, concerns⟩
      | name _ name => exact name.leads

end LocoSounds
