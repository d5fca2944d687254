import LocoSounds.Proofs.Binary64.Characters
import LocoSounds.Proofs.Rule.Parts
import LocoSounds.Proofs.Text.Lines
import LocoSounds.Rule.Outline
import Mathlib.Data.List.Forall2

/-! An outline has one line for each rule of a tree, and shows all of the tree but its weights
beyond their brief texts. -/

namespace LocoSounds

/-- A line opens with something else than a space. -/
def opens (line : String) : Bool := line.toList.head?.any (· ≠ ' ')

/-- The label of an alternative: its weight and the total of all weights, both in brief texts. -/
def shareLabel (weight total : Binary64) : String :=
  weight.briefText ++ "/" ++ total.briefText ++ ": "

namespace Rule

/-- What the first line of a rule's outline says about the rule. -/
def heading : Rule → String
  | .allOf [] => "AllOf: (empty)"
  | .allOf (_ :: _) => "AllOf:"
  | .oneOf _ => "OneOf:"
  | .when property value _ => "If " ++ property.name ++ " = " ++ value ++ ":"
  | .ref name => "Ref \"" ++ name ++ "\""
  | .sound name => "Sound \"" ++ name ++ "\""

/-- The rules right below a rule, each with the label that stands before its heading. -/
def children : Rule → List (String × Rule)
  | .allOf rules => rules.map fun rule => ("", rule)
  | .oneOf choices => choices.map fun choice =>
    (shareLabel choice.1 (totalWeight (choices.map Prod.fst)), choice.2)
  | .when _ _ rule => [("", rule)]
  | .ref _ => []
  | .sound _ => []

/-- The name or the value that a rule has in its heading. -/
def ownText? : Rule → Option String
  | .allOf _ => none
  | .oneOf _ => none
  | .when _ value _ => some value
  | .ref name => some name
  | .sound name => some name

/-- No name and no value in the tree of a rule has a newline. -/
def OneLined (rule : Rule) : Prop :=
  ∀ part : Rule, part.PartOf rule → ∀ text ∈ part.ownText?, '\n' ∉ text.toList

/-- A rule in a tree, with its depth there and the label that stands before its heading. -/
structure Node where
  depth : Nat
  label : String
  rule : Rule

/-- The text of a node: its label and heading. -/
def Node.text (node : Node) : String := node.label ++ node.rule.heading

/-- The line of a node: its text behind two spaces for each level above. -/
def Node.line (node : Node) : String := indentLine (2 * node.depth) node.text

/-- A rule right below another one is a rule of its list without a label, the rule of one of its
alternatives with the share as label, or the rule under its condition without a label. -/
theorem child_cases {rule : Rule} {entry : String × Rule} (member : entry ∈ rule.children) :
    (∃ rules, rule = .allOf rules ∧ entry.2 ∈ rules ∧ entry.1 = "") ∨
    (∃ choices weight, rule = .oneOf choices ∧ (weight, entry.2) ∈ choices ∧
      entry.1 = shareLabel weight (totalWeight (choices.map Prod.fst))) ∨
    ∃ property value, rule = .when property value entry.2 ∧ entry.1 = "" := by
  -- The forms one by one, each with its own list of children.
  cases rule with
  | allOf rules =>
    obtain ⟨inner, inside, rfl⟩ := List.mem_map.mp member
    exact .inl ⟨rules, rfl, inside, rfl⟩
  | oneOf choices =>
    obtain ⟨⟨weight, inner⟩, inside, rfl⟩ := List.mem_map.mp member
    exact .inr (.inl ⟨choices, weight, rfl, inside, rfl⟩)
  | when property value inner =>
    obtain rfl := List.mem_singleton.mp member
    exact .inr (.inr ⟨property, value, rfl, rfl⟩)
  -- Nothing stands below a name.
  | ref name => cases member
  | sound name => cases member

/-- A rule is larger than those right below it. -/
theorem sizeOf_child {rule : Rule} {entry : String × Rule} (member : entry ∈ rule.children) :
    sizeOf entry.2 < sizeOf rule := by
  -- A child is in the list, the alternative or the condition that its parent is made of.
  rcases child_cases member with ⟨rules, rfl, inside, -⟩ | ⟨choices, weight, rfl, inside, -⟩ |
    ⟨property, value, rfl, -⟩
  · have := List.sizeOf_lt_of_mem inside
    simp only [allOf.sizeOf_spec]
    omega
  · -- The alternative is in the list, and the rule is in the alternative.
    have := List.sizeOf_lt_of_mem inside
    simp only [oneOf.sizeOf_spec, Prod.mk.sizeOf_spec] at this ⊢
    omega
  · simp only [when.sizeOf_spec]
    omega

/-- The nodes of a tree whose root has some depth and label, each before those below it. -/
def nodesFrom (depth : Nat) (label : String) (rule : Rule) : List Node :=
  ⟨depth, label, rule⟩ ::
    rule.children.attach.flatMap fun entry => nodesFrom (depth + 1) entry.1.1 entry.1.2
termination_by rule
decreasing_by exact sizeOf_child entry.2

/-- The nodes of a rule's tree in pre-order. -/
def nodes (rule : Rule) : List Node := rule.nodesFrom 0 ""

/-- Two rules have the same tree, but for weights that have the same brief texts and whose totals
have the same brief texts. -/
inductive AlikeButWeights : Rule → Rule → Prop where
  | allOf {rules others : List Rule} (parts : List.Forall₂ AlikeButWeights rules others) :
      AlikeButWeights (.allOf rules) (.allOf others)
  | oneOf {choices others : List (Binary64 × Rule)}
      (total : (totalWeight (choices.map Prod.fst)).briefText =
        (totalWeight (others.map Prod.fst)).briefText)
      (weights : choices.map (·.1.briefText) = others.map (·.1.briefText))
      (parts : List.Forall₂ AlikeButWeights (choices.map Prod.snd) (others.map Prod.snd)) :
      AlikeButWeights (.oneOf choices) (.oneOf others)
  | when {property : CarProperty} {value : String} {rule other : Rule}
      (part : AlikeButWeights rule other) :
      AlikeButWeights (.when property value rule) (.when property value other)
  | ref (name : String) : AlikeButWeights (.ref name) (.ref name)
  | sound (name : String) : AlikeButWeights (.sound name) (.sound name)

section

variable {rule other : Rule} {label : String} {entry : String × Rule}

/-- Induction on the levels of a tree: a rule has the property once those right below it do. -/
theorem inductionOnChildren {motive : Rule → Prop}
    (step : ∀ rule : Rule, (∀ entry ∈ rule.children, motive entry.2) → motive rule)
    (rule : Rule) : motive rule :=
  step rule fun entry _ => inductionOnChildren step entry.2
termination_by rule
decreasing_by exact sizeOf_child ‹_›

/-- A rule right below another one is part of it. -/
theorem partOf_of_child (member : entry ∈ rule.children) : entry.2.PartOf rule := by
  -- Each kind of child is a part by the constructor for its parent's form.
  rcases child_cases member with ⟨rules, rfl, inside, -⟩ | ⟨choices, weight, rfl, inside, -⟩ |
    ⟨property, value, rfl, -⟩
  · exact .allOf inside .self
  · exact .oneOf inside .self
  · exact .when .self

/-- Where a tree has no newline, none of its parts does. -/
theorem OneLined.part {inner : Rule} (oneLined : rule.OneLined) (inside : inner.PartOf rule) :
    inner.OneLined :=
  fun _ within => oneLined _ (within.trans inside)

/-- Where a tree has no newline, nor have the trees right below its root. -/
theorem OneLined.child (oneLined : rule.OneLined) (member : entry ∈ rule.children) :
    entry.2.OneLined :=
  oneLined.part (partOf_of_child member)

/-- A heading opens with a letter for the form of its rule. -/
def initial : Rule → Char
  | .allOf _ => 'A'
  | .oneOf _ => 'O'
  | .when _ _ _ => 'I'
  | .ref _ => 'R'
  | .sound _ => 'S'

/-- The first character of a heading is the letter for the form of the rule. -/
theorem head?_heading (rule : Rule) : rule.heading.toList.head? = some rule.initial := by
  -- The five headings begin with five fixed words.
  cases rule with
  | allOf rules => cases rules <;> simp [heading, initial]
  | oneOf choices => simp [heading, initial]
  | when property value inner => simp [heading, initial]
  | ref name => simp [heading, initial]
  | sound name => simp [heading, initial]

/-- A heading opens with a capital. -/
theorem isUpper_of_head?_heading (rule : Rule) : ∀ c ∈ rule.heading.toList.head?, c.isUpper := by
  -- Only the first character counts, and it depends on the form alone.
  intro c first
  -- The first character is one of five letters.
  rw [head?_heading, Option.mem_some_iff] at first
  subst first
  cases rule <;> rfl

/-- Where names and values have no newline, a heading has none. -/
theorem OneLined.heading (oneLined : rule.OneLined) : '\n' ∉ rule.heading.toList := by
  -- The text in a heading comes from the rule itself, so it is one of those without a newline.
  have own := oneLined rule .self
  -- All of a heading but the name or the value is fixed for the form of the rule.
  cases rule with
  | allOf rules => cases rules <;> simp [Rule.heading]
  | oneOf choices => simp [Rule.heading]
  | when property value inner =>
    have value_lined : '\n' ∉ value.toList := own value rfl
    cases property <;> simp [Rule.heading, CarProperty.name, value_lined]
  | ref name =>
    have name_lined : '\n' ∉ name.toList := own name rfl
    simp [Rule.heading, name_lined]
  | sound name =>
    have name_lined : '\n' ∉ name.toList := own name rfl
    simp [Rule.heading, name_lined]

/-- What may stand before a heading: nothing, or the share of an alternative. -/
inductive IsLabel : String → Prop where
  | none : IsLabel ""
  | share (weight total : Binary64) : IsLabel (shareLabel weight total)

/-- A rule right below another one has a label or none. -/
theorem isLabel_of_child (member : entry ∈ rule.children) : IsLabel entry.1 := by
  -- Only the children of a choice have labels, and those are shares.
  rcases child_cases member with ⟨_, _, _, none⟩ | ⟨_, _, _, _, share⟩ | ⟨_, _, _, none⟩
  · exact none ▸ .none
  · exact share ▸ .share _ _
  · exact none ▸ .none

/-- The characters of a share: two numerals, each with a mark behind it. -/
theorem toList_shareLabel (weight total : Binary64) : (shareLabel weight total).toList =
    weight.briefText.toList ++ '/' :: (total.briefText.toList ++ [':', ' ']) := by
  -- The share is put together from its numerals and marks, character by character.
  simp [shareLabel]

/-- A share shows the brief texts of both numbers. -/
theorem shareLabel_inj {weight total weight' total' : Binary64} :
    shareLabel weight total = shareLabel weight' total' ↔
      weight.briefText = weight'.briefText ∧ total.briefText = total'.briefText := by
  -- Where the slash stands is what tells the two numerals apart.
  constructor
  · intro same
    have characters := congrArg String.toList same
    rw [toList_shareLabel, toList_shareLabel] at characters
    -- The first slash ends the weight, as no numeral has one.
    have noSlash : ∀ x : Binary64, '/' ∉ x.briefText.toList := fun x =>
      x.isNumeral_briefText.notMem rfl
    obtain ⟨weights, -, totals⟩ :=
      (List.append_cons_inj_of_notMem (noSlash _) (by simp [noSlash])).mp characters
    exact ⟨String.toList_inj.mp weights, String.toList_inj.mp (List.append_cancel_right totals)⟩
  · rintro ⟨weights, totals⟩
    rw [shareLabel, shareLabel, weights, totals]

/-- A label has no capital. -/
theorem IsLabel.isUpper_eq_false (isLabel : IsLabel label) :
    ∀ c ∈ label.toList, c.isUpper = false := by
  -- A share consists of two numerals and marks, and neither has a capital.
  cases isLabel with
  | none => simp
  | share weight total =>
    intro c member
    simp only [toList_shareLabel, List.mem_append, List.mem_cons, List.not_mem_nil, or_false]
      at member
    rcases member with inWeight | rfl | inTotal | rfl | rfl
    · exact weight.isNumeral_briefText.isUpper_eq_false inWeight
    · rfl
    · exact total.isNumeral_briefText.isUpper_eq_false inTotal
    · rfl
    · rfl

/-- A label has no newline. -/
theorem IsLabel.oneLined (isLabel : IsLabel label) : '\n' ∉ label.toList := by
  -- A share consists of two numerals and marks, and neither has a newline.
  cases isLabel with
  | none => simp
  | share weight total =>
    have noNewline : ∀ x : Binary64, '\n' ∉ x.briefText.toList := fun x =>
      x.isNumeral_briefText.notMem rfl
    simp [toList_shareLabel, noNewline]

/-- A label and a heading together open with no space. -/
theorem IsLabel.opens (isLabel : IsLabel label) (rule : Rule) : opens (label ++ rule.heading) := by
  -- A heading opens with a letter, and a share with a character of a numeral.
  cases isLabel with
  | none =>
    rw [String.empty_append, LocoSounds.opens, head?_heading]
    cases rule <;> rfl
  | share weight total =>
    have noSpace : ' ' ∉ weight.briefText.toList := weight.isNumeral_briefText.notMem rfl
    rw [LocoSounds.opens, String.toList_append, toList_shareLabel]
    -- What comes first is a character of the weight, or else the slash.
    cases characters : weight.briefText.toList with
    | nil => rfl
    | cons c rest =>
      rw [characters, List.mem_cons, not_or] at noSpace
      simpa using Ne.symm noSpace.1

/-- The first capital of a line is where its heading begins. -/
theorem IsLabel.append_heading_inj {label' : String} (isLabel : IsLabel label)
    (isLabel' : IsLabel label') (same : label ++ rule.heading = label' ++ other.heading) :
    label = label' ∧ rule.heading = other.heading := by
  -- No label has a capital and every heading opens with one, which marks where the label ends.
  have characters := congrArg String.toList same
  rw [String.toList_append, String.toList_append] at characters
  obtain ⟨labels, headings⟩ := append_inj_of_marked isLabel.isUpper_eq_false
    rule.isUpper_of_head?_heading isLabel'.isUpper_eq_false other.isUpper_of_head?_heading
    characters
  exact ⟨String.toList_inj.mp labels, String.toList_inj.mp headings⟩

/-- The lines of some rules are those of each, one rule after the other. -/
theorem outlineAll_eq (rules : List Rule) : outlineAll rules = rules.flatMap outlineLines := by
  -- By induction on the rules.
  induction rules with
  | nil => rfl
  | cons rule rest ih => rw [outlineAll, ih, List.flatMap_cons]

/-- The lines of alternatives are those of each behind its share, one after the other. -/
theorem outlineChoices_eq (total : Binary64) (choices : List (Binary64 × Rule)) :
    outlineChoices total.briefText choices = choices.flatMap fun choice =>
      labelled (shareLabel choice.1 total) choice.2.outlineLines := by
  -- By induction on the alternatives.
  induction choices with
  | nil => rfl
  | cons choice rest ih => rw [outlineChoices, ih, List.flatMap_cons, shareLabel]

/-- The lines that a rule's outline has for one of those right below it. -/
def block (entry : String × Rule) : List String := labelled entry.1 entry.2.outlineLines

/-- Without a label, lines stay as they are. -/
theorem labelled_empty {line : String} {rest : List String} :
    labelled "" (line :: rest) = line :: rest := by
  -- The empty text in front of a line adds nothing.
  rw [labelled, String.empty_append]

/-- The outline of a tree without newlines is a heading and, further in, the outlines of the rules
right below the root, each behind its label. -/
theorem outlineLines_eq (oneLined : rule.OneLined) :
    rule.outlineLines = rule.heading :: nested (rule.children.flatMap block) := by
  -- By induction on the tree; the five forms differ in their headings and in where children stand.
  induction rule using inductionOnChildren with
  | step rule ih =>
    -- What stands without a label has a first line, so that nothing is added to it.
    have bare : ∀ inner : Rule, ("", inner) ∈ rule.children →
        block ("", inner) = inner.outlineLines := by
      intro inner member
      rw [block, ih _ member (oneLined.child member), labelled_empty]
    have single : lines rule.heading = [rule.heading] := lines_eq_singleton oneLined.heading
    cases rule with
    | allOf rules =>
      have each : (rules.map fun inner => ("", inner)).flatMap block = outlineAll rules := by
        rw [outlineAll_eq, List.flatMap_map]
        exact List.flatMap_congr fun inner member => bare inner (List.mem_map_of_mem member)
      rw [children, each]
      cases rules with
      | nil => rfl
      | cons first rest => simp only [outlineLines, heading]
    | oneOf choices =>
      rw [outlineLines, heading, children, outlineChoices_eq, List.flatMap_map]
      rfl
    | when property value inner =>
      rw [children, List.flatMap_singleton, bare inner (List.mem_singleton_self _), outlineLines]
      exact congrArg (· ++ _) single
    | ref name => exact single
    | sound name => exact single

/-- The nodes of a tree are its root and, one level further down, those of the rules below it. -/
theorem nodesFrom_eq (depth : Nat) (label : String) (rule : Rule) :
    rule.nodesFrom depth label = ⟨depth, label, rule⟩ ::
      rule.children.flatMap fun entry => entry.2.nodesFrom (depth + 1) entry.1 := by
  -- The recursion carries proofs that the children are smaller, which are dropped here.
  rw [nodesFrom]
  simp only [List.flatMap_subtype, List.unattach_attach]

/-- Each node of a tree is one of its parts and has a label or none. -/
theorem of_mem_nodesFrom {depth : Nat} {node : Node} (isLabel : IsLabel label)
    (member : node ∈ rule.nodesFrom depth label) : IsLabel node.label ∧ node.rule.PartOf rule := by
  -- By induction on the tree, from any depth and behind any label.
  induction rule using inductionOnChildren generalizing depth label with
  | step rule ih =>
    -- A node is the root, or it is one of the nodes of a rule right below it.
    rw [nodesFrom_eq, List.mem_cons, List.mem_flatMap] at member
    rcases member with rfl | ⟨entry, child, within⟩
    · exact ⟨isLabel, .self⟩
    · obtain ⟨labelled, inside⟩ := ih entry child (isLabel_of_child child) within
      exact ⟨labelled, inside.trans (partOf_of_child child)⟩

/-- The lines of the nodes are those of the outline, moved in as far as the root is deep. -/
theorem map_line_nodesFrom (oneLined : rule.OneLined) (depth : Nat) (label : String) :
    (rule.nodesFrom depth label).map Node.line =
      (labelled label rule.outlineLines).map (indentLine (2 * depth)) := by
  -- By induction on the tree, from any depth and behind any label.
  induction rule using inductionOnChildren generalizing depth label with
  | step rule ih =>
    -- What the outline moves in by one level is what the nodes below the root are deeper.
    have deeper : ∀ line, indentLine (2 * depth) (indentLine 2 line) =
        indentLine (2 * (depth + 1)) line := fun line => indentLine_indentLine _ _ _
    have inner : ∀ entry ∈ rule.children, (entry.2.nodesFrom (depth + 1) entry.1).map Node.line =
        (block entry).map (indentLine (2 * (depth + 1))) := fun entry member =>
      ih entry member (oneLined.child member) (depth + 1) entry.1
    calc (rule.nodesFrom depth label).map Node.line
      _ = indentLine (2 * depth) (label ++ rule.heading) :: rule.children.flatMap fun entry =>
            (entry.2.nodesFrom (depth + 1) entry.1).map Node.line := by
        rw [nodesFrom_eq, List.map_cons, List.map_flatMap, Node.line, Node.text]
      _ = indentLine (2 * depth) (label ++ rule.heading) :: rule.children.flatMap fun entry =>
            (block entry).map (indentLine (2 * (depth + 1))) := by
        rw [List.flatMap_congr inner]
      _ = (labelled label rule.outlineLines).map (indentLine (2 * depth)) := by
        rw [outlineLines_eq oneLined, labelled, nested, List.map_cons, List.map_map,
          List.map_flatMap]
        simp only [Function.comp_def, deeper]

/-- The lines of an outline are those of the nodes in pre-order. -/
theorem outlineLines_eq_nodes (oneLined : rule.OneLined) :
    rule.outlineLines = rule.nodes.map Node.line := by
  -- At depth zero and without a label, nothing is moved and nothing is put in front.
  have unmoved : ∀ line, indentLine (2 * 0) line = line := fun line => String.empty_append
  rw [nodes, map_line_nodesFrom oneLined, outlineLines_eq oneLined, labelled_empty]
  exact (List.map_congr_left fun line _ => unmoved line).trans (List.map_id _) |>.symm

/-- The text of an outline has one line for each node, in pre-order. -/
theorem lines_outline (oneLined : rule.OneLined) :
    lines rule.outline = rule.nodes.map Node.line := by
  -- Lines without newlines are split again where they were put together.
  rw [outline, lines_unlines ?_ ?_, outlineLines_eq_nodes oneLined]
  · rw [outlineLines_eq oneLined]
    exact List.cons_ne_nil _ _
  · -- Neither labels nor headings have newlines, so that each line stays one.
    intro line member
    rw [outlineLines_eq_nodes oneLined] at member
    obtain ⟨node, inside, rfl⟩ := List.mem_map.mp member
    obtain ⟨isLabel, part⟩ := of_mem_nodesFrom .none inside
    simp [Node.line, Node.text, isLabel.oneLined, (oneLined.part part).heading]

/-- Rules right below others have the same label and the same tree but for weights. -/
def AlikeEntries (entry other : String × Rule) : Prop :=
  entry.1 = other.1 ∧ entry.2.AlikeButWeights other.2

/-- Without labels, entries are alike where their rules are. -/
theorem forall₂_bare_iff {rules others : List Rule} :
    List.Forall₂ AlikeEntries (rules.map fun inner => ("", inner))
      (others.map fun inner => ("", inner)) ↔ List.Forall₂ AlikeButWeights rules others := by
  -- All labels are empty, so only the rules are compared.
  simp [List.forall₂_map_left_iff, List.forall₂_map_right_iff, AlikeEntries]

/-- With the shares as labels, entries are alike where the rules are and where the brief texts of
the weights and of the totals agree. -/
theorem forall₂_children_oneOf_iff {choices others : List (Binary64 × Rule)} :
    List.Forall₂ AlikeEntries (oneOf choices).children (oneOf others).children ↔
      (totalWeight (choices.map Prod.fst)).briefText =
          (totalWeight (others.map Prod.fst)).briefText ∧
        choices.map (·.1.briefText) = others.map (·.1.briefText) ∧
        List.Forall₂ AlikeButWeights (choices.map Prod.snd) (others.map Prod.snd) := by
  -- Both lists of labels come from the shares, which show the weights and the total.
  rw [children, children, ← List.forall₂_eq_eq_eq]
  simp only [List.forall₂_map_left_iff, List.forall₂_map_right_iff, AlikeEntries, shareLabel_inj]
  constructor
  · intro alike
    refine ⟨?_, alike.imp fun _ _ both => both.1.1, alike.imp fun _ _ both => both.2⟩
    -- Every label has the total; without any label both totals are zero.
    cases alike with
    | nil => rfl
    | cons first rest => exact first.1.2
  · rintro ⟨total, weights, parts⟩
    exact weights.mp (fun _ _ weight part => ⟨⟨weight, total⟩, part⟩) parts

/-- The heading of a condition shows its property and value. -/
theorem heading_when_inj {property property' : CarProperty} {value value' : String}
    {inner inner' : Rule}
    (same : (when property value inner).heading = (when property' value' inner').heading) :
    property = property' ∧ value = value' := by
  -- The heading is read from the left: the property first, and then the value.
  have characters := congrArg String.toList same
  -- The names of properties differ in their first letters, so that the values are not reached.
  cases property <;> cases property' <;> simp [heading, CarProperty.name] at characters
  · exact ⟨rfl, String.toList_inj.mp characters⟩
  · exact ⟨rfl, String.toList_inj.mp characters⟩

/-- Trees are alike but for weights where their headings are the same and the labels and trees
right below them agree one by one. -/
theorem alikeButWeights_iff : rule.AlikeButWeights other ↔
    rule.heading = other.heading ∧ List.Forall₂ AlikeEntries rule.children other.children := by
  -- The first letter of the heading settles the form, and the rest of it the texts.
  constructor
  · rintro (parts | ⟨total, weights, parts⟩ | part | name | name)
    · refine ⟨?_, forall₂_bare_iff.mpr parts⟩
      cases parts <;> rfl
    · exact ⟨rfl, forall₂_children_oneOf_iff.mpr ⟨total, weights, parts⟩⟩
    · exact ⟨rfl, .cons ⟨rfl, part⟩ .nil⟩
    · exact ⟨rfl, .nil⟩
    · exact ⟨rfl, .nil⟩
  · rintro ⟨headings, entries⟩
    have initials : rule.initial = other.initial := by
      have firsts := congrArg (·.toList.head?) headings
      simpa only [head?_heading, Option.some.injEq] using firsts
    -- The first letter tells which form both have.
    cases rule with
    | allOf rules =>
      cases other with
      | allOf others => exact .allOf (forall₂_bare_iff.mp entries)
      | _ => simp [initial] at initials
    | oneOf choices =>
      cases other with
      | oneOf others =>
        obtain ⟨total, weights, parts⟩ := forall₂_children_oneOf_iff.mp entries
        exact .oneOf total weights parts
      | _ => simp [initial] at initials
    | when property value inner =>
      cases other with
      | when property' value' inner' =>
        obtain ⟨rfl, rfl⟩ := heading_when_inj headings
        exact .when (List.forall₂_cons.mp entries).1.2
      | _ => simp [initial] at initials
    | ref name =>
      cases other with
      | ref name' =>
        obtain rfl : name = name' := by simpa [heading] using headings
        exact .ref name
      | _ => simp [initial] at initials
    | sound name =>
      cases other with
      | sound name' =>
        obtain rfl : name = name' := by simpa [heading] using headings
        exact .sound name
      | _ => simp [initial] at initials

/-- The outline of a rule behind its label is a line that opens with no space and others that
open with one. -/
theorem isBlock_block (isLabel : IsLabel entry.1) (oneLined : entry.2.OneLined) :
    IsBlock opens (block entry) := by
  -- The line behind the label is at the margin, and all the others are moved in.
  rw [block, outlineLines_eq oneLined, labelled]
  refine .intro (isLabel.opens entry.2) fun line member => ?_
  obtain ⟨inner, -, rfl⟩ := List.mem_map.mp member
  simp [LocoSounds.opens]

/-- Lists of blocks are the same where the blocks are, one by one. -/
theorem map_block_eq_iff : rule.children.map block = other.children.map block ↔
    List.Forall₂ (fun entry entry' => block entry = block entry') rule.children other.children := by
  -- Both sides compare the blocks one by one.
  rw [← List.forall₂_eq_eq_eq, List.forall₂_map_left_iff, List.forall₂_map_right_iff]

/-- What the blocks right below the root are made of determines each block. -/
theorem map_block_inj (oneLined : rule.OneLined) (oneLined' : other.OneLined)
    (same : rule.children.flatMap block = other.children.flatMap block) :
    rule.children.map block = other.children.map block := by
  -- A line that opens with no space starts the next block, so the blocks can be told apart.
  have blocks : ∀ {rule : Rule}, rule.OneLined →
      ∀ lines ∈ rule.children.map block, IsBlock opens lines := fun oneLined =>
    List.forall_mem_map.mpr fun _ member =>
      isBlock_block (isLabel_of_child member) (oneLined.child member)
  rw [List.flatMap_def, List.flatMap_def] at same
  exact flatten_inj_of_blocks (blocks oneLined) (blocks oneLined') same

/-- The block of an entry shows its label and the outline of its rule. -/
theorem block_inj {entry' : String × Rule} (isLabel : IsLabel entry.1) (isLabel' : IsLabel entry'.1)
    (oneLined : entry.2.OneLined) (oneLined' : entry'.2.OneLined)
    (same : block entry = block entry') :
    entry.1 = entry'.1 ∧ entry.2.outlineLines = entry'.2.outlineLines := by
  -- The first line is the label with the heading, and the lines below it are those of the outline.
  rw [block, block, outlineLines_eq oneLined, outlineLines_eq oneLined', labelled, labelled,
    List.cons.injEq] at same
  obtain ⟨labels, headings⟩ := isLabel.append_heading_inj isLabel' same.1
  refine ⟨labels, ?_⟩
  rw [outlineLines_eq oneLined, outlineLines_eq oneLined', headings, same.2]

/-- Trees with the same lines are alike but for weights. -/
theorem alikeButWeights_of_outlineLines (oneLined : rule.OneLined) (oneLined' : other.OneLined)
    (same : rule.outlineLines = other.outlineLines) : rule.AlikeButWeights other := by
  -- By induction on the tree; the lines fall apart into a heading and the blocks of the children.
  induction rule using inductionOnChildren generalizing other with
  | step rule ih =>
    rw [outlineLines_eq oneLined, outlineLines_eq oneLined', List.cons.injEq] at same
    -- The first lines are the headings, and all the others are moved in by as much.
    have further : rule.children.flatMap block = other.children.flatMap block :=
      List.map_injective_iff.mpr (indentLine_injective 2) same.2
    have blocks := map_block_eq_iff.mp (map_block_inj oneLined oneLined' further)
    refine alikeButWeights_iff.mpr ⟨same.1, List.forall₂_iff_zip.mpr ⟨blocks.length_eq, ?_⟩⟩
    -- Each pair of blocks at the same place shows the same label and, by induction, alike trees.
    intro entry entry' pair
    obtain ⟨child, child'⟩ := List.of_mem_zip pair
    obtain ⟨labels, parts⟩ := block_inj (isLabel_of_child child) (isLabel_of_child child')
      (oneLined.child child) (oneLined'.child child') (List.forall₂_zip blocks pair)
    exact ⟨labels, ih entry child (oneLined.child child) (oneLined'.child child') parts⟩

/-- Trees that are alike but for weights have the same lines. -/
theorem AlikeButWeights.outlineLines_eq (oneLined : rule.OneLined) (oneLined' : other.OneLined)
    (alike : rule.AlikeButWeights other) : rule.outlineLines = other.outlineLines := by
  -- By induction on the tree; alike trees have the same heading and alike children.
  induction rule using inductionOnChildren generalizing other with
  | step rule ih =>
    obtain ⟨headings, entries⟩ := alikeButWeights_iff.mp alike
    have blocks : rule.children.map block = other.children.map block := by
      refine map_block_eq_iff.mpr (List.forall₂_iff_zip.mpr ⟨entries.length_eq, ?_⟩)
      intro entry entry' pair
      obtain ⟨child, child'⟩ := List.of_mem_zip pair
      obtain ⟨labels, parts⟩ := List.forall₂_zip entries pair
      have inner := ih entry child (oneLined.child child) (oneLined'.child child') parts
      rw [block, block, labels, inner]
    rw [Rule.outlineLines_eq oneLined, Rule.outlineLines_eq oneLined', headings, List.flatMap_def,
      List.flatMap_def, blocks]

/-- Outlines are the same texts where they have the same lines. -/
theorem outline_inj (oneLined : rule.OneLined) (oneLined' : other.OneLined) :
    rule.outline = other.outline ↔ rule.outlineLines = other.outlineLines := by
  -- The text splits into its lines again, and the lines make up the text.
  constructor
  · intro same
    rw [outlineLines_eq_nodes oneLined, outlineLines_eq_nodes oneLined', ← lines_outline oneLined,
      ← lines_outline oneLined', same]
  · intro same
    rw [outline, outline, same]

end

/-- Outlines are unambiguous. Where no name and no value has a newline, the text of a rule has one
line for each node of its tree, in pre-order, with exactly two spaces for each level above it; and
two such rules have the same text just where they are the same tree, but for weights that have the
same brief texts and totals with the same brief texts. -/
theorem outline_unambiguous :
    (∀ rule : Rule, rule.OneLined → lines rule.outline = rule.nodes.map Node.line ∧
      ∀ node ∈ rule.nodes, opens node.text) ∧
    ∀ rule other : Rule, rule.OneLined → other.OneLined →
      (rule.outline = other.outline ↔ rule.AlikeButWeights other) := by
  -- One line for each node and no ambiguity were shown on their own.
  refine ⟨fun rule oneLined => ⟨lines_outline oneLined, fun node member => ?_⟩,
    fun rule other oneLined oneLined' => ?_⟩
  · exact (of_mem_nodesFrom .none member).1.opens node.rule
  · rw [outline_inj oneLined oneLined']
    exact ⟨alikeButWeights_of_outlineLines oneLined oneLined',
      AlikeButWeights.outlineLines_eq oneLined oneLined'⟩

/-- A choice with one alternative, and one with the next larger weight, have the same text. -/
theorem outlines_of_near_weights :
    (Rule.oneOf [(.one, .sound "a: b")]).OneLined ∧
      (Rule.oneOf [(.ofRank false (1023 * Binary64.binadeSize + 1), .sound "a: b")]).OneLined ∧
      lines (Rule.oneOf [(.one, .sound "a: b")]).outline =
        ["OneOf:", "  1/1: Sound \"a: b\""] ∧
      (Rule.oneOf [(.one, .sound "a: b")]).outline =
        (Rule.oneOf [(.ofRank false (1023 * Binary64.binadeSize + 1), .sound "a: b")]).outline := by
  -- The two weights are computed to have the same brief text, and so have the totals.
  have oneLined : ∀ weight, (Rule.oneOf [(weight, .sound "a: b")]).OneLined := by
    intro weight part inside text own
    simp only [partOf_oneOf_iff, List.mem_singleton, exists_eq_left, partOf_sound_iff] at inside
    rcases inside with rfl | rfl
    · -- A choice has no name of its own.
      cases own
    · cases own
      decide
  refine ⟨oneLined _, oneLined _, ?_, ?_⟩
  · rw [(outline_unambiguous.1 _ (oneLined _)).1, nodes, nodesFrom_eq]
    simp only [children, List.map_cons, List.map_nil, List.flatMap_cons, List.flatMap_nil]
    rw [nodesFrom_eq, children, List.flatMap_nil]
    decide +kernel
  · -- Both weights have one as their brief text, and so have both totals.
    refine (outline_unambiguous.2 _ _ (oneLined _) (oneLined _)).mpr (.oneOf ?_ ?_ ?_)
    · decide +kernel
    · decide +kernel
    · exact .cons (.sound _) .nil

end Rule

end LocoSounds
