/-! Nodes of YAML documents: scalars, sequences and mappings, with aliases replaced by what they name. -/

namespace LocoSounds.Yaml

/-- A node of a document, with the tag that is written before it. -/
inductive Node where
  /-- A plain scalar may stand for something else than its text. -/
  | scalar (tag : Option String) (plain : Bool) (text : String)
  | sequence (tag : Option String) (items : List Node)
  | mapping (tag : Option String) (entries : List (Node × Node))
  /-- The node of a name that this one is part of, as long as that node is not complete. -/
  | enclosing (name : String)

instance : Inhabited Node := ⟨.scalar none true ""⟩

namespace Node

/-- The node that stands where nothing is written. -/
def empty : Node := .scalar none true ""

/-- The node without its parts. -/
def bare : Node → Node
  | .sequence tag _ => .sequence tag []
  | .mapping tag _ => .mapping tag []
  | node => node

mutual

/-- The node with another one in place of the enclosing node of a name. -/
def fill (name : String) (whole : Node) : Node → Node
  | .scalar tag plain text => .scalar tag plain text
  | .sequence tag items => .sequence tag (fillAll name whole items)
  | .mapping tag entries => .mapping tag (fillEntries name whole entries)
  | .enclosing other => if other = name then whole else .enclosing other

/-- The items of a sequence, filled. -/
def fillAll (name : String) (whole : Node) : List Node → List Node
  | [] => []
  | node :: rest => fill name whole node :: fillAll name whole rest

/-- The entries of a mapping, filled. -/
def fillEntries (name : String) (whole : Node) : List (Node × Node) → List (Node × Node)
  | [] => []
  | (key, value) :: rest =>
    (fill name whole key, fill name whole value) :: fillEntries name whole rest

end

/-- The node of a name with itself in place of the enclosing node of that name, a number of times over.
Deeper down it has no parts. -/
def nest (name : String) (node : Node) : Nat → Node
  | 0 => node.bare
  | depth + 1 => fill name (node.nest name depth) node

/-- How often a node that is part of itself is written out inside itself. No use of a document follows
such a node deeper without following it forever. -/
def nesting : Nat := 4

end Node

end LocoSounds.Yaml
