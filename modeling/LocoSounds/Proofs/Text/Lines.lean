import LocoSounds.Text.Lines
import Mathlib.Data.List.Basic

/-! Lines and the texts that they make up. -/

namespace LocoSounds

/-- The pieces of a text are what it splits into at the separator. -/
theorem pieces_eq_splitOn (separator : Char) (text : List Char) :
    pieces separator text = text.splitOn separator := by
  -- By induction on the text; a separator starts a piece, and any other character joins the first
  -- one.
  induction text with
  | nil => rfl
  | cons c rest ih =>
    rw [pieces, ih, List.splitOn, List.splitOn, List.splitOnP_cons_eq_if_modifyHead]
    by_cases here : c = separator
    · simp [here]
    · -- There is always a first piece, which takes in one more character.
      obtain ⟨piece, more, split⟩ :=
        List.exists_cons_of_ne_nil (List.splitOnP_ne_nil (· == separator) rest)
      simp [here, split, extendFirst]

/-- Lines that are put together come apart again, where there are some and each is one line. -/
theorem lines_unlines {given : List String} (some : given ≠ [])
    (each : ∀ line ∈ given, '\n' ∉ line.toList) : lines (unlines given) = given := by
  -- What separates the lines stands in none of them.
  have apart : ∀ line ∈ given.map String.toList, '\n' ∉ line := List.forall_mem_map.mpr each
  rw [lines, unlines, String.toList_intercalate, pieces_eq_splitOn,
    show "\n".toList = ['\n'] from rfl, List.splitOn_intercalate _ apart (by simpa using some),
    List.map_map]
  exact (List.map_congr_left fun line _ => String.ofList_toList).trans (List.map_id given)

/-- A text without a newline is one line. -/
theorem lines_eq_singleton {text : String} (single : '\n' ∉ text.toList) : lines text = [text] :=
  lines_unlines (List.cons_ne_nil _ _) (List.forall_mem_singleton.mpr single)

/-- The characters of a line behind spaces are the spaces and those of the line. -/
@[simp] theorem toList_indentLine (width : Nat) (line : String) :
    (indentLine width line).toList = List.replicate width ' ' ++ line.toList := by
  -- The spaces stand in front of the line, and texts are compared as lists of characters.
  rw [indentLine, String.toList_append, String.toList_ofList]

/-- Lines behind equally many spaces are the same where the lines are. -/
theorem indentLine_injective (width : Nat) : Function.Injective (indentLine width) := by
  -- Equally many characters are taken off in front of both.
  intro line other same
  have characters := congrArg String.toList same
  rw [toList_indentLine, toList_indentLine] at characters
  exact String.toList_inj.mp (List.append_cancel_left characters)

/-- Spaces before spaces are as many as both. -/
theorem indentLine_indentLine (width more : Nat) (line : String) :
    indentLine width (indentLine more line) = indentLine (width + more) line := by
  -- Two rows of spaces are one row, as texts are compared by their characters.
  apply String.toList_inj.mp
  simp only [toList_indentLine, ← List.append_assoc, List.replicate_append_replicate]

section

variable {α : Type} {marked : α → Bool}

/-- A list is cut before its first marked entry, where every entry before that is unmarked. -/
theorem takeWhile_unmarked {front back : List α} (unmarked : ∀ a ∈ front, marked a = false)
    (cut : ∀ a ∈ back.head?, marked a) : (front ++ back).takeWhile (!marked ·) = front := by
  -- The front is passed as a whole, and the first entry behind it ends the search.
  rw [List.takeWhile_append_of_pos fun a member => by rw [unmarked a member, Bool.not_false]]
  -- Behind the front nothing follows, or a marked entry does.
  cases back with
  | nil => rw [List.takeWhile_nil, List.append_nil]
  | cons a rest => rw [List.takeWhile_cons_of_neg (by simp [cut a rfl]), List.append_nil]

/-- Two lists that are cut before their first marked entries are the same in both parts. -/
theorem append_inj_of_marked {front back front' back' : List α}
    (unmarked : ∀ a ∈ front, marked a = false) (cut : ∀ a ∈ back.head?, marked a)
    (unmarked' : ∀ a ∈ front', marked a = false) (cut' : ∀ a ∈ back'.head?, marked a)
    (same : front ++ back = front' ++ back') : front = front' ∧ back = back' := by
  -- Each front is where the search for a marked entry stops in the list, which is the same one.
  have fronts : front = front' := by
    rw [← takeWhile_unmarked unmarked cut, same, takeWhile_unmarked unmarked' cut']
  subst fronts
  exact ⟨rfl, List.append_cancel_left same⟩

/-- A block opens with a marked entry and has no other one. -/
inductive IsBlock (marked : α → Bool) : List α → Prop where
  | intro {head : α} {rest : List α} (head_marked : marked head)
      (rest_unmarked : ∀ a ∈ rest, marked a = false) : IsBlock marked (head :: rest)

/-- Where blocks follow each other, a marked entry comes first. -/
theorem head?_flatten_of_blocks {blocks : List (List α)}
    (each : ∀ block ∈ blocks, IsBlock marked block) : ∀ a ∈ blocks.flatten.head?, marked a := by
  -- The first block comes first, if there is one, and it opens with a marked entry.
  cases blocks with
  | nil => simp
  | cons block more =>
    obtain ⟨opens, -⟩ := each block List.mem_cons_self
    simpa using opens

/-- Blocks that are put together come apart again. -/
theorem flatten_inj_of_blocks {blocks others : List (List α)}
    (each : ∀ block ∈ blocks, IsBlock marked block) (each' : ∀ block ∈ others, IsBlock marked block)
    (same : blocks.flatten = others.flatten) : blocks = others := by
  -- By induction on the blocks; the first of either list is compared, and then what is behind it.
  induction blocks generalizing others with
  | nil =>
    -- A block has its head at least, so that nothing at all comes from no block alone.
    cases others with
    | nil => rfl
    | cons other more => obtain ⟨-, -⟩ := each' other List.mem_cons_self; cases same
  | cons block rest ih =>
    obtain ⟨first, behind⟩ := List.forall_mem_cons.mp each
    cases others with
    | nil => obtain ⟨-, -⟩ := first; cases same
    | cons other more =>
      obtain ⟨first', behind'⟩ := List.forall_mem_cons.mp each'
      obtain ⟨-, unmarked⟩ := first
      obtain ⟨-, unmarked'⟩ := first'
      -- The heads agree, and the next marked entries end both blocks.
      rw [List.flatten_cons, List.flatten_cons, List.cons_append, List.cons_append,
        List.cons.injEq] at same
      obtain ⟨rfl, tails⟩ := append_inj_of_marked unmarked (head?_flatten_of_blocks behind)
        unmarked' (head?_flatten_of_blocks behind') same.2
      rw [same.1, ih behind behind' tails]

end

end LocoSounds
