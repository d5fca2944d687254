import LocoSounds.Proofs.Rule.Parts
import Mathlib.Data.List.Chain
import Mathlib.Data.List.Nodup

/-! The graph of references between named rules, and the search that finds its cycles. -/

namespace LocoSounds

namespace NamedRules

/-- A defined rule refers, somewhere in its tree, to a defined rule. -/
def Refers (rules : NamedRules) (name other : String) : Prop :=
  other ∈ rules.names ∧ ∃ rule, rules.lookup name = some rule ∧ (Rule.ref other).PartOf rule

/-- No rule comes back to itself along references. -/
def Acyclic (rules : NamedRules) : Prop :=
  ∀ name, ¬ Relation.TransGen rules.Refers name name

/-- The names met on a way along references, from a name back to it and over no name twice. -/
structure IsCycle (rules : NamedRules) (names : List String) : Prop where
  length : 2 ≤ names.length
  returns : names.head? = names.getLast?
  chain : names.IsChain rules.Refers
  nodup : names.dropLast.Nodup

/-- Every way along references from a name comes to an end. -/
def Ends (rules : NamedRules) (name : String) : Prop :=
  Acc (fun other name => rules.Refers name other) name

/-- A name is defined where a rule is found under it. -/
theorem mem_names_iff {rules : NamedRules} {name : String} :
    name ∈ rules.names ↔ ∃ rule, rules.lookup name = some rule := by
  -- The names are the keys that the lookup goes by.
  rw [← Option.isSome_iff_exists, List.lookup_isSome_iff, names, List.mem_map]
  exact exists_congr fun entry => and_congr_right fun _ => by rw [beq_iff_eq, eq_comm]

/-- The references that a search follows are the edges of the graph. -/
theorem refers_iff {rules : NamedRules} {name other : String} :
    rules.Refers name other ↔ other ∈ rules.names ∧ other ∈ rules.refsOf name := by
  -- Under a name that is not defined there are neither edges nor references.
  unfold Refers refsOf
  cases rules.lookup name <;> simp [Rule.mem_refs_iff]

/-- Only defined names refer to others. -/
theorem Refers.defined {rules : NamedRules} {name other : String}
    (refers : rules.Refers name other) : name ∈ rules.names := by
  -- A reference is one of the rule that is found under the name.
  obtain ⟨_, rule, found, _⟩ := refers
  exact mem_names_iff.mpr ⟨rule, found⟩

/-- A name from which every way ends does not come back to itself. -/
theorem Ends.not_transGen {rules : NamedRules} {name : String} (ends : rules.Ends name) :
    ¬ Relation.TransGen rules.Refers name name := by
  -- A way back passes through a next name, which then comes back to itself as well.
  induction ends with
  | intro name _ ih =>
    intro back
    obtain ⟨next, first, rest⟩ := Relation.TransGen.head'_iff.mp back
    exact ih next first (.tail' rest first)

/-- Rules are free of cycles where every way from a defined name ends. -/
theorem acyclic_of_ends {rules : NamedRules} (ends : ∀ name ∈ rules.names, rules.Ends name) :
    rules.Acyclic := by
  -- Where every way ends, no way can go round for ever.
  intro name back
  -- A name with a way back to itself has a first step, so it is defined.
  obtain ⟨next, first, _⟩ := Relation.TransGen.head'_iff.mp back
  exact (ends name first.defined).not_transGen back

/-- Rules with a cycle are not free of them. -/
theorem IsCycle.not_acyclic {rules : NamedRules} {names : List String}
    (cycle : rules.IsCycle names) : ¬ rules.Acyclic := by
  -- The names of the cycle are a way along references that comes back to where it began.
  intro acyclic
  obtain ⟨length, returns, chain, _⟩ := cycle
  -- The first step of the way, then the rest of it back to the first name.
  rcases names with _ | ⟨name, _ | ⟨next, rest⟩⟩
  · simp at length
  · simp at length
  · have last : (next :: rest).getLast (by simp) = name := by
      rw [List.getLast?_cons_cons, List.head?_cons,
        List.getLast?_eq_some_getLast (by simp)] at returns
      exact (Option.some.inj returns).symm
    have first : rules.Refers name next := chain.rel
    exact acyclic name (.head' first (List.relationReflTransGen_of_exists_isChain_cons rest
      (List.isChain_cons_cons.mp chain).2 last))

/-- The frames of a search lie on one way along references, the last one first. -/
structure OnWay (rules : NamedRules) (stack : List Frame) : Prop where
  chain : (stack.map (·.name)).IsChain fun name before => rules.Refers before name
  nodup : (stack.map (·.name)).Nodup
  defined : ∀ frame ∈ stack, frame.name ∈ rules.names
  pending : ∀ frame ∈ stack, ∀ other ∈ frame.pending, other ∈ rules.refsOf frame.name

/-- A search starts on a way of one defined name. -/
theorem onWay_start {rules : NamedRules} {start : String} (defined : start ∈ rules.names) :
    rules.OnWay [⟨start, rules.refsOf start⟩] := by
  -- One name makes a chain, and all of its references are still to be followed.
  constructor <;> simp [defined]

/-- Going back from a rule leaves the way to it. -/
theorem OnWay.leave {rules : NamedRules} {frame : Frame} {below : List Frame}
    (way : rules.OnWay (frame :: below)) : rules.OnWay below where
  chain := (List.map_cons ▸ way.chain).tail
  nodup := (List.nodup_cons.mp way.nodup).2
  defined := fun other member => way.defined other (.tail _ member)
  pending := fun other member => way.pending other (.tail _ member)

/-- A reference that is passed over leaves the way as it is. -/
theorem OnWay.pass {rules : NamedRules} {name child : String} {pending : List String}
    {below : List Frame} (way : rules.OnWay (⟨name, child :: pending⟩ :: below)) :
    rules.OnWay (⟨name, pending⟩ :: below) where
  chain := way.chain
  nodup := way.nodup
  defined := by simpa using way.defined
  pending := by
    -- The way is the same, with one reference fewer to be followed.
    have kept := way.pending
    simp only [List.forall_mem_cons] at kept ⊢
    exact ⟨kept.1.2, kept.2⟩

/-- Following a reference to a rule that is not on the way makes the way longer. -/
theorem OnWay.enter {rules : NamedRules} {name child : String} {pending : List String}
    {below : List Frame} (way : rules.OnWay (⟨name, child :: pending⟩ :: below))
    (defined : child ∈ rules.names)
    (off : child ∉ (⟨name, pending⟩ :: below : List Frame).map (·.name)) :
    rules.OnWay (⟨child, rules.refsOf child⟩ :: ⟨name, pending⟩ :: below) where
  chain := by
    -- The new name is referred to by the last one on the way, and it was not on it before.
    have step : rules.Refers name child :=
      refers_iff.mpr ⟨defined, way.pending _ (.head _) child (.head _)⟩
    exact List.isChain_cons_cons.mpr ⟨step, way.chain⟩
  nodup := List.nodup_cons.mpr ⟨off, way.nodup⟩
  defined := List.forall_mem_cons.mpr ⟨defined, way.pass.defined⟩
  pending := List.forall_mem_cons.mpr ⟨fun _ member => member, way.pass.pending⟩

/-- The cycle that a name closes starts from it and goes over all that was met after it. -/
theorem closeCycle_eq {stack : List Frame} {name : String} {after before : List String}
    (split : stack.map (·.name) = after ++ name :: before) (fresh : name ∉ after) :
    closeCycle stack name = name :: after.reverse ++ [name] := by
  -- Going back along the stack stops at the name and not before.
  have others : ∀ other ∈ after, (other != name) = true := by
    intro other member
    exact bne_iff_ne.mpr fun same => fresh (same ▸ member)
  rw [closeCycle, split, List.takeWhile_append_of_pos others]
  simp

/-- A reference back to a rule on the way closes a cycle. -/
theorem OnWay.isCycle_closeCycle {rules : NamedRules} {name child : String}
    {pending : List String} {below : List Frame}
    (way : rules.OnWay (⟨name, child :: pending⟩ :: below))
    (on : child ∈ (⟨name, pending⟩ :: below : List Frame).map (·.name)) :
    rules.IsCycle (closeCycle (⟨name, pending⟩ :: below) child) := by
  -- The child has a frame of its own, which makes it a defined name.
  have step : rules.Refers name child := by
    obtain ⟨frame, member, same⟩ := List.mem_map.mp on
    exact refers_iff.mpr ⟨same ▸ way.pass.defined frame member, way.pending _ (.head _) _ (.head _)⟩
  -- One more step leads from the end of the way to the child.
  have longer : (child :: (⟨name, pending⟩ :: below : List Frame).map (·.name)).IsChain
      fun name before => rules.Refers before name := List.isChain_cons_cons.mpr ⟨step, way.chain⟩
  have nodup : ((⟨name, pending⟩ :: below : List Frame).map (·.name)).Nodup := way.nodup
  -- The cycle is cut out of the way where the child first stands on it.
  obtain ⟨after, before, split, fresh⟩ := List.eq_append_cons_of_mem on
  rw [split] at longer nodup
  rw [closeCycle_eq split fresh]
  refine ⟨by simp, List.getLast?_concat.symm, ?_, ?_⟩
  · -- The stack holds the way last frame first, so the cycle runs through it the other way round.
    have back : (child :: after.reverse ++ [child]) = (child :: (after ++ [child])).reverse := by
      simp
    rw [back]
    exact List.isChain_reverse.mpr <| List.IsChain.prefix longer ⟨before, by simp⟩
  · rw [List.dropLast_concat]
    exact List.nodup_cons.mpr
      ⟨by simpa using fresh, List.nodup_reverse.mpr (List.nodup_append.mp nodup).1⟩

/-- A search from a way along references reports nothing but cycles. -/
theorem isCycle_of_search {rules : NamedRules} {visited : List String} {stack : List Frame}
    {cycle : List String} (way : rules.OnWay stack)
    (found : search rules visited stack = .error cycle) : rules.IsCycle cycle := by
  -- Each case is one step of the search, which leaves the frames on a way.
  induction visited, stack using search.induct rules with
  | case1 visited => simp [search] at found
  | case2 visited name below ih =>
    rw [search] at found
    exact ih way.leave found
  | case3 visited name child pending below stack on =>
    rw [search, if_pos on] at found
    cases found
    exact way.isCycle_closeCycle (List.contains_iff_mem.mp on)
  | case4 visited name child pending below stack off fresh ih =>
    rw [search, if_neg off, dif_pos fresh] at found
    exact ih (way.enter fresh.1 (mt List.contains_iff_mem.mpr off)) found
  | case5 visited name child pending below stack off known ih =>
    rw [search, if_neg off, dif_neg known] at found
    exact ih way.pass found

/-- The references of each frame are still to be followed, lead to the frame above, or lead to names
from which every way ends. -/
def Explored (rules : NamedRules) (above : Option String) : List Frame → Prop
  | [] => True
  | frame :: below =>
    (∀ other, rules.Refers frame.name other →
      other ∈ frame.pending ∨ above = some other ∨ rules.Ends other) ∧
    Explored rules (some frame.name) below

/-- Every name that a search has come to lies on its way or is one from which every way ends. -/
def Settled (rules : NamedRules) (visited : List String) (stack : List Frame) : Prop :=
  ∀ name ∈ visited, name ∈ stack.map (·.name) ∨ rules.Ends name

/-- A search starts with all references of its first name still to be followed. -/
theorem explored_start (rules : NamedRules) (start : String) :
    rules.Explored none [⟨start, rules.refsOf start⟩] :=
  ⟨fun _ refers => .inl (refers_iff.mp refers).2, trivial⟩

/-- Every way ends from a name whose references have all been followed to their ends. -/
theorem Explored.ends {rules : NamedRules} {name : String} {below : List Frame}
    (explored : rules.Explored none (⟨name, []⟩ :: below)) : rules.Ends name := by
  -- None of its references is pending or being followed, so the way from each of them ends.
  refine Acc.intro name fun other refers => ?_
  rcases explored.1 other refers with still | same | done
  · cases still
  · cases same
  · exact done

/-- Going back from a name leaves it behind as one from which every way ends. -/
theorem Explored.leave {rules : NamedRules} {name : String} {below : List Frame}
    (explored : rules.Explored none (⟨name, []⟩ :: below)) : rules.Explored none below := by
  -- The name gone back to was following a reference to this one, from which every way ends.
  have ends := explored.ends
  cases below with
  | nil => trivial
  | cons frame below =>
    obtain ⟨_, followed, rest⟩ := explored
    refine ⟨fun other refers => ?_, rest⟩
    rcases followed other refers with still | same | done
    · exact .inl still
    · exact .inr (.inr (Option.some.inj same ▸ ends))
    · exact .inr (.inr done)

/-- Following a reference puts the rule that it leads to above the one it comes from. -/
theorem Explored.enter {rules : NamedRules} {name child : String} {pending : List String}
    {below : List Frame} (explored : rules.Explored none (⟨name, child :: pending⟩ :: below)) :
    rules.Explored none (⟨child, rules.refsOf child⟩ :: ⟨name, pending⟩ :: below) := by
  -- All references of the new rule are pending, and below it one is being followed now.
  refine ⟨fun other refers => .inl (refers_iff.mp refers).2, fun other refers => ?_, explored.2⟩
  rcases explored.1 other refers with still | same | done
  · rcases List.mem_cons.mp still with rfl | still
    · exact .inr (.inl rfl)
    · exact .inl still
  · cases same
  · exact .inr (.inr done)

/-- A reference may be passed over if it leads nowhere or to a name from which every way ends. -/
theorem Explored.pass {rules : NamedRules} {name child : String} {pending : List String}
    {below : List Frame} (explored : rules.Explored none (⟨name, child :: pending⟩ :: below))
    (known : child ∈ rules.names → rules.Ends child) :
    rules.Explored none (⟨name, pending⟩ :: below) := by
  -- Each reference that is left is accounted for as before, and this one by its ways.
  refine ⟨fun other refers => ?_, explored.2⟩
  rcases explored.1 other refers with still | same | done
  · rcases List.mem_cons.mp still with rfl | still
    · exact .inr (.inr (known refers.1))
    · exact .inl still
  · cases same
  · exact .inr (.inr done)

/-- A search that reports no cycle has come to nothing but names from which every way ends. -/
theorem ends_of_search {rules : NamedRules} {visited : List String} {stack : List Frame}
    {reached : List String} (explored : rules.Explored none stack)
    (settled : rules.Settled visited stack) (found : search rules visited stack = .ok reached) :
    visited ⊆ reached ∧ ∀ name ∈ reached, rules.Ends name := by
  -- Each case is one step of the search, which keeps both invariants.
  induction visited, stack using search.induct rules with
  | case1 visited =>
    rw [search] at found
    cases found
    exact ⟨fun _ member => member, fun name member => by simpa using settled name member⟩
  | case2 visited name below ih =>
    rw [search] at found
    -- The name whose frame is left has come to its end, the others stay as they are.
    refine ih explored.leave (fun other member => ?_) found
    rcases settled other member with on | done
    · rcases List.mem_cons.mp on with rfl | on
      · exact .inr explored.ends
      · exact .inl on
    · exact .inr done
  | case3 visited name child pending below stack on =>
    rw [search, if_pos on] at found
    cases found
  | case4 visited name child pending below stack off fresh ih =>
    rw [search, if_neg off, dif_pos fresh] at found
    -- The child is now on the way, and everything settled before stays so.
    have started : rules.Settled (child :: visited) (⟨child, rules.refsOf child⟩ :: stack) := by
      refine List.forall_mem_cons.mpr ⟨.inl (.head _), fun other member => ?_⟩
      exact (settled other member).imp_left (.tail _)
    obtain ⟨kept, ends⟩ := ih explored.enter started found
    exact ⟨fun _ member => kept (.tail _ member), ends⟩
  | case5 visited name child pending below stack off known ih =>
    rw [search, if_neg off, dif_neg known] at found
    -- A defined name that is neither new nor on the way was left behind earlier.
    have ends : child ∈ rules.names → rules.Ends child := by
      intro defined
      have met : child ∈ visited := by
        by_contra fresh
        exact known ⟨defined, fresh⟩
      exact (settled child met).resolve_left (mt List.contains_iff_mem.mpr off)
    exact ih (explored.pass ends) settled found

/-- Searches from all names of a list that report no cycle show every way from them to end. -/
theorem ends_of_searchFrom {rules : NamedRules} {visited starts : List String}
    (settled : ∀ name ∈ visited, rules.Ends name)
    (found : searchFrom rules visited starts = none) : ∀ name ∈ starts, rules.Ends name := by
  -- Names visited by earlier searches are settled before the next search starts.
  induction starts generalizing visited with
  | nil => simp
  | cons start rest ih =>
    rw [searchFrom] at found
    split at found
    · rename_i visitedStart
      exact List.forall_mem_cons.mpr
        ⟨settled start (List.contains_iff_mem.mp visitedStart), ih settled found⟩
    · cases searched : search rules (start :: visited) [⟨start, rules.refsOf start⟩] with
      | error cycle => simp [searched] at found
      | ok reached =>
        simp only [searched] at found
        have opened : rules.Settled (start :: visited) [⟨start, rules.refsOf start⟩] :=
          List.forall_mem_cons.mpr ⟨.inl (.head _), fun name member => .inr (settled name member)⟩
        obtain ⟨kept, ends⟩ := ends_of_search (explored_start rules start) opened searched
        exact List.forall_mem_cons.mpr ⟨ends start (kept (.head _)), ih ends found⟩

/-- Searches from defined names report nothing but cycles. -/
theorem isCycle_of_searchFrom {rules : NamedRules} {visited starts cycle : List String}
    (defined : ∀ start ∈ starts, start ∈ rules.names)
    (found : searchFrom rules visited starts = some cycle) : rules.IsCycle cycle := by
  -- The first search that fails reports its cycle, and each search starts on a way of its own.
  induction starts generalizing visited with
  | nil => simp [searchFrom] at found
  | cons start rest ih =>
    obtain ⟨first, others⟩ := List.forall_mem_cons.mp defined
    rw [searchFrom] at found
    split at found
    · exact ih others found
    · cases searched : search rules (start :: visited) [⟨start, rules.refsOf start⟩] with
      | error cycle =>
        simp only [searched, Option.some.injEq] at found
        subst found
        exact isCycle_of_search (onWay_start first) searched
      | ok reached =>
        simp only [searched] at found
        exact ih others found

/-- A list of names that is reported is a cycle. -/
theorem isCycle_of_findCycle? {rules : NamedRules} {cycle : List String}
    (found : rules.findCycle? = some cycle) : rules.IsCycle cycle :=
  isCycle_of_searchFrom (fun _ member => member) found

/-- Where no cycle is reported, every way along references ends. -/
theorem ends_of_findCycle?_eq_none {rules : NamedRules} (none : rules.findCycle? = none) :
    ∀ name ∈ rules.names, rules.Ends name :=
  ends_of_searchFrom (by simp) none

/-- No cycle is reported exactly where there is none. -/
theorem findCycle?_eq_none_iff {rules : NamedRules} :
    rules.findCycle? = none ↔ rules.Acyclic := by
  -- A search either shows every way to end or reports a cycle, and rules have not both.
  constructor
  · intro found
    exact acyclic_of_ends (ends_of_findCycle?_eq_none found)
  · intro acyclic
    cases found : rules.findCycle? with
    | none => rfl
    | some cycle => exact absurd acyclic (isCycle_of_findCycle? found).not_acyclic

/-- Rules without cycles have no way along references that goes on for ever. -/
theorem Acyclic.ends {rules : NamedRules} (acyclic : rules.Acyclic) (name : String) :
    rules.Ends name := by
  -- The search finds nothing, which shows it for defined names. Others have no references.
  by_cases defined : name ∈ rules.names
  · exact ends_of_findCycle?_eq_none (findCycle?_eq_none_iff.mpr acyclic) name defined
  · exact Acc.intro name fun _ refers => absurd refers.defined defined

/-- Induction on rules along their references, where no rule comes back to itself. -/
theorem Acyclic.induction {rules : NamedRules} (acyclic : rules.Acyclic) {motive : Rule → Prop}
    (allOf : ∀ rules, (∀ rule ∈ rules, motive rule) → motive (.allOf rules))
    (oneOf : ∀ choices, (∀ choice ∈ choices, motive choice.2) → motive (.oneOf choices))
    (when : ∀ property value rule, motive rule → motive (.when property value rule))
    (ref : ∀ name, (∀ rule, rules.lookup name = some rule → motive rule) → motive (.ref name))
    (sound : ∀ name, motive (.sound name)) : ∀ rule, motive rule := by
  -- Inside one tree the references are what is left to show.
  have of_refs : ∀ rule, (∀ name, (Rule.ref name).PartOf rule → motive (.ref name)) →
      motive rule := by
    intro rule
    induction rule with
    | allOf inner ih =>
      intro refs
      exact allOf inner fun rule member => ih rule member fun name inside =>
        refs name (.allOf member inside)
    | oneOf choices ih =>
      intro refs
      exact oneOf choices fun choice member => ih choice member fun name inside =>
        refs name (.oneOf member inside)
    | when property value rule ih =>
      intro refs
      exact when property value rule (ih fun name inside => refs name (.when inside))
    | ref name =>
      intro refs
      exact refs name .self
    | sound name =>
      intro _
      exact sound name
  -- From one tree to those it refers to, every way comes to an end.
  have of_ends : ∀ name, motive (.ref name) := by
    intro name
    induction acyclic.ends name with
    | intro name _ ih =>
      refine ref name fun rule found => of_refs rule fun other inside => ?_
      by_cases defined : other ∈ rules.names
      · exact ih other ⟨defined, rule, found, inside⟩
      · exact ref other fun rule found => absurd (mem_names_iff.mpr ⟨rule, found⟩) defined
  exact fun rule => of_refs rule fun name _ => of_ends name

/--
The search for a cycle is exact.

It always comes to an end, as each step comes to a new name or leaves fewer references to follow.
It reports none exactly where the graph of references has none.
What it reports is a way along references from a name back to it, over no other name twice.
-/
theorem findCycle?_exact (rules : NamedRules) :
    (rules.findCycle? = none ↔ rules.Acyclic) ∧
      ∀ cycle, rules.findCycle? = some cycle → rules.IsCycle cycle :=
  ⟨findCycle?_eq_none_iff, fun _ => isCycle_of_findCycle?⟩

/-- A cycle under a condition and an alternative is found from a rule that is not on it, past a name
that stands for nothing. -/
theorem findCycle?_finds_nested_cycle :
    let rules : NamedRules := [
      ("horns", .allOf [.ref "lost", .ref "bells"]),
      ("bells", .oneOf [(.ofInt 1, .sound "bell"), (.ofInt 2, .ref "hoots")]),
      ("hoots", .when .skinName "Blue" (.allOf [.ref "lost", .ref "bells"]))]
    rules.findCycle? = some ["bells", "hoots", "bells"] ∧
      rules.IsCycle ["bells", "hoots", "bells"] ∧ ¬ rules.Acyclic := by
  -- The search is computed, and what it reports is what the general result speaks of.
  intro rules
  have found : rules.findCycle? = some ["bells", "hoots", "bells"] := by
    simp [rules, findCycle?, searchFrom, search, refsOf, names, closeCycle, List.lookup_cons,
      Rule.refs, Rule.refsOfAll, Rule.refsOfChoices]
  refine ⟨found, (findCycle?_exact rules).2 _ found, ?_⟩
  intro acyclic
  rw [(findCycle?_exact rules).1.mpr acyclic] at found
  cases found

end NamedRules

end LocoSounds
