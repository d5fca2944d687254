import LocoSounds.ParseError

/-! The grammar of rules: a name stands for the rule of that name, a mapping is tagged with its form. -/

namespace LocoSounds

namespace Rule

/-- A token that must be text. -/
def expectText (location : Location) : Token → Except ParseError String
  | .scalar (.text value) => .ok value
  | token => .error (token.unexpected .text location)

/-- A token that must be a number. -/
def expectNumber (location : Location) : Token → Except ParseError Binary64
  | .scalar (.int value) =>
    -- Only a whole number can be out of range, as all others are rounded already.
    let number := Binary64.ofInt value
    if number.isFinite then .ok number else .error .numberTooLarge
  | .scalar (.float value) => .ok value
  | .scalar .sharedNan => .ok .nan
  | token => .error (token.unexpected .number location)

/-- Tokens from a position of a list on, each read at its own location. -/
def readList (read : Location → Token → Except ParseError α) (location : Location)
    (position : Nat) : List Token → Except ParseError (List α)
  | [] => .ok []
  | token :: rest => do
    let value ← read (location.item position) token
    let values ← readList read location (position + 1) rest
    .ok (value :: values)

/-- The text under a field that must be there. -/
def textField (location : Location) (entries : Entries) (name : String) :
    Except ParseError String :=
  match entries.getD name with
  | .scalar .null => .error (Token.missing name location)
  | token => expectText (location.key name) token

/-- The names of the sounds that a rule applies after its rules. -/
def soundNames (location : Location) (entries : Entries) : Except ParseError (List String) :=
  match entries.getD "sounds" with
  | .scalar .null => .ok []
  | .list items => readList expectText (location.key "sounds") 0 items
  | token => .error (token.unexpected .list (location.key "sounds"))

/-- The weights of a choice between a number of rules. -/
def weights (location : Location) (entries : Entries) (count : Nat) :
    Except ParseError (List Binary64) :=
  match entries.getD "weights" with
  | .scalar .null => .ok (evenWeights count)
  | .list items => readList expectNumber (location.key "weights") 0 items
  | token => .error (token.unexpected .list (location.key "weights"))

/-- The property that a condition tests. -/
def property (location : Location) (entries : Entries) : Except ParseError CarProperty := do
  let name ← textField location entries "property"
  match CarProperty.ofName? name with
  | some property => .ok property
  | none => .error (.malformed (.noSuchProperty name) (location.key "property"))

/-- The choice between rules with some weights. -/
def choiceAt (location : Location) (rules : List Rule) (weights : List Binary64) :
    Except ParseError Rule :=
  match choice rules (some weights) with
  | .ok rule => .ok rule
  | .error fault => .error (.malformed (.choice fault) location)

mutual

/-- The rule that a token stands for. -/
def ofToken (location : Location) : Token → Except ParseError Rule
  | .scalar (.text name) => .ok (.ref name)
  | .mapping entries => do
    let tag ← textField location entries "type"
    match RuleKind.ofName? tag with
    | none => .error (.malformed (.noSuchRuleKind tag) location)
    | some .allOf => do
      -- Sounds are applied after the rules, wherever they are written.
      let rules ← rulesIn location false entries
      let sounds ← soundNames location entries
      .ok (.allOf (rules ++ sounds.map .sound))
    | some .oneOf => do
      let rules ← rulesIn location true entries
      -- Weights that are left out are as many as there are rules, so the rules are read first.
      let weights ← weights location entries rules.length
      choiceAt location rules weights
    | some .when => do
      let property ← property location entries
      -- That the rule is missing is told before the value is looked at.
      if (Entries.getD entries "rule").isNull then .error (Token.missing "rule" location)
      let value ← textField location entries "value"
      let rule ← ruleIn location entries
      .ok (.when property value rule)
    | some .sound => do
      let name ← textField location entries "name"
      .ok (.sound name)
    | some .ref => do
      let name ← textField location entries "name"
      .ok (.ref name)
  | token => .error (token.unexpected .rule location)

/-- The rule under the field `rule` of some entries. -/
def ruleIn (location : Location) : List (Scalar × Token) → Except ParseError Rule
  | [] => .error (Token.missing "rule" location)
  | (key, token) :: rest =>
    -- The search goes along with the reading, so that the rule is seen to be part of the entries.
    if key = .text "rule" then ofToken (location.key "rule") token else ruleIn location rest

/-- The rules in the list under the field `rules` of some entries. -/
def rulesIn (location : Location) (required : Bool) :
    List (Scalar × Token) → Except ParseError (List Rule)
  | [] => if required then .error (Token.missing "rules" location) else .ok []
  | (key, token) :: rest =>
    -- Of several entries of the name the first one counts, as in any other search.
    if key = .text "rules" then
      match token with
      | .scalar .null => if required then .error (Token.missing "rules" location) else .ok []
      | .list items => rulesFrom (location.key "rules") 0 items
      | other => .error (other.unexpected .list (location.key "rules"))
    else rulesIn location required rest

/-- The rules that tokens from a position of a list on stand for. -/
def rulesFrom (location : Location) (position : Nat) : List Token → Except ParseError (List Rule)
  | [] => .ok []
  | token :: rest => do
    let rule ← ofToken (location.item position) token
    let rules ← rulesFrom location (position + 1) rest
    .ok (rule :: rules)

end

/-- The rules of a section, under their names. -/
def ofSection (token : Token) : Except ParseError (List (String × Rule)) := do
  let entries ← Section.rules.entries token
  entries.mapM fun (name, token) => do
    let rule ← ofToken ((Location.start "rules").key name) token
    pure (name, rule)

end Rule

end LocoSounds
