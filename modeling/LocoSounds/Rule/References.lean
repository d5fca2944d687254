import LocoSounds.Rule

/-! References between named rules and the search for a cycle among them. -/

namespace LocoSounds

namespace Rule

mutual

/-- The names that a rule refers to, in the order of the tree. -/
def refs : Rule → List String
  | .allOf rules => refsOfAll rules
  | .oneOf choices => refsOfChoices choices
  | .when _ _ rule => rule.refs
  | .ref name => [name]
  | .sound _ => []

/-- The names that some rules refer to. -/
def refsOfAll : List Rule → List String
  | [] => []
  | rule :: rest => rule.refs ++ refsOfAll rest

/-- The names that the alternatives of a choice refer to. -/
def refsOfChoices : List (Binary64 × Rule) → List String
  | [] => []
  | (_, rule) :: rest => rule.refs ++ refsOfChoices rest

end

end Rule

/-- Named rules in the order written. -/
abbrev NamedRules := List (String × Rule)

namespace NamedRules

/-- The names of the rules. -/
def names (rules : NamedRules) : List String := rules.map (·.1)

/-- The names that a named rule refers to. -/
def refsOf (rules : NamedRules) (name : String) : List String :=
  match rules.lookup name with
  | some rule => rule.refs
  | none => []

/-- A rule on the way that a search has come, with the references it has still to follow. -/
structure Frame where
  name : String
  pending : List String

/-- The defined names that a search has not come to. -/
def unvisited (rules : NamedRules) (visited : List String) : List String :=
  rules.names.filter (! visited.contains ·)

/-- Coming to a defined name for the first time leaves fewer to come to. -/
theorem unvisited_length_lt (rules : NamedRules) (visited : List String) (name : String)
    (defined : name ∈ rules.names) (fresh : name ∉ visited) :
    (rules.unvisited (name :: visited)).length < (rules.unvisited visited).length := by
  -- The new name passes the old filter and fails the new one, which lets nothing else through.
  have narrower : rules.unvisited (name :: visited)
      = (rules.unvisited visited).filter (· != name) := by
    simp only [unvisited, List.filter_filter]
    congr 1
    funext other
    by_cases same : other = name <;> simp [same]
  rw [narrower]
  apply List.length_filter_lt_length_iff_exists.mpr
  exact ⟨name, by simp [unvisited, defined, fresh], by simp⟩

/-- The way from a name on it back to that name, where the way is held last frame first. -/
def closeCycle (stack : List Frame) (name : String) : List String :=
  name :: ((stack.map (·.name)).takeWhile (· != name)).reverse ++ [name]

/-- The number of steps that some frames take if nothing new is found. -/
def pendingSteps : List Frame → Nat
  | [] => 0
  | frame :: below => frame.pending.length + 1 + pendingSteps below

/-- Follows references depth first. Either meets a name again that is still on its way, which gives
a cycle, or comes to an end with the names it has come to. -/
def search (rules : NamedRules) (visited : List String) :
    List Frame → Except (List String) (List String)
  | [] => .ok visited
  | ⟨_, []⟩ :: below => search rules visited below
  | ⟨name, child :: pending⟩ :: below =>
    let stack := ⟨name, pending⟩ :: below
    -- The name is on the way already, so following it would close a cycle.
    if (stack.map (·.name)).contains child then .error (closeCycle stack child)
    -- A name that is new goes on top of the way, with all of its references still to be followed.
    else if _fresh : child ∈ rules.names ∧ child ∉ visited then
      search rules (child :: visited) (⟨child, rules.refsOf child⟩ :: stack)
    -- Any other name stands for nothing, or the ways from it are known to end.
    else search rules visited stack
termination_by stack =>
  ((rules.unvisited visited).length, pendingSteps stack)
decreasing_by
  · apply Prod.Lex.right; simp [pendingSteps]
  · apply Prod.Lex.left
    exact unvisited_length_lt rules visited child _fresh.1 _fresh.2
  · apply Prod.Lex.right; simp [pendingSteps]

/-- Searches from every name of a list that has not been come to yet. -/
def searchFrom (rules : NamedRules) (visited : List String) : List String → Option (List String)
  | [] => none
  | start :: rest =>
    if visited.contains start then searchFrom rules visited rest
    else match search rules (start :: visited) [⟨start, rules.refsOf start⟩] with
      | .error cycle => some cycle
      | .ok visited => searchFrom rules visited rest

/-- A cycle of rules that refer to each other, if there is one, from a name back to the same name. -/
def findCycle? (rules : NamedRules) : Option (List String) :=
  searchFrom rules [] rules.names

end NamedRules

end LocoSounds
