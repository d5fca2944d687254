import LocoSounds.Binary64.Arithmetic
import LocoSounds.DateTime

/-! Values of configuration documents: scalars, lists and mappings that keep the order of their keys. -/

namespace LocoSounds

/-- A value without parts. Mapping keys are scalars. -/
inductive Scalar where
  | null
  | bool (value : Bool)
  | int (value : Int)
  | float (value : Binary64)
  | text (value : String)
  /-- The `nan` of documents, which is one and the same wherever it stands. -/
  | sharedNan
  | date (value : Date)
  | dateTime (value : DateTime)
  | bytes (value : List UInt8)
  deriving DecidableEq

/-- A value of a document. -/
inductive Token where
  | scalar (value : Scalar)
  | list (items : List Token)
  /-- A sequence that is not accepted where a list is required. -/
  | tuple (items : List Token)
  /-- Scalars without order, no two of them the same as keys. -/
  | set (members : List Scalar)
  /-- Keys with their values, in the order written. -/
  | mapping (entries : List (Scalar × Token))

/-- Keys of a mapping with their values, in the order written. -/
abbrev Entries := List (Scalar × Token)

/-- What tells a key from others. -/
inductive KeyIdentity where
  | null
  | integer (value : Int)
  | number (value : Binary64)
  | sharedNan
  | text (value : String)
  | date (value : Date)
  /-- Times that belong to an instant are never those that do not. -/
  | time (known : Bool) (instant : Int)
  | bytes (value : List UInt8)
  deriving DecidableEq

namespace Scalar

/-- What tells a scalar from others as a key. Truth values and whole numbers go by their integer, and a
`nan` of its own is the same as nothing, not even itself. -/
def identity? : Scalar → Option KeyIdentity
  | .null => some .null
  | .bool value => some (.integer (if value then 1 else 0))
  | .int value => some (.integer value)
  | .float .nan => none
  | .float value => some ((value.integer?.map .integer).getD (.number value))
  | .sharedNan => some .sharedNan
  | .text value => some (.text value)
  | .date value => some (.date value)
  | .dateTime value => some (.time value.offset.isSome value.instant)
  | .bytes value => some (.bytes value)

/-- Two scalars name the same entry. -/
def sameKey (a b : Scalar) : Bool :=
  match a.identity?, b.identity? with
  | some identity, some other => identity = other
  | _, _ => false

end Scalar

namespace Token

/-- The null token. -/
def null : Token := .scalar .null

/-- A text token. -/
def text (value : String) : Token := .scalar (.text value)

instance : Inhabited Token := ⟨null⟩

/-- Null stands for an absent value. -/
def isNull : Token → Bool
  | .scalar .null => true
  | _ => false

end Token

namespace Entries

/-- The value under a name, if the name is a key. -/
def get? (entries : Entries) (name : String) : Option Token :=
  match entries.find? (·.1 = .text name) with
  | some (_, value) => some value
  | none => none

/-- The value under a name, null where there is none. -/
def getD (entries : Entries) (name : String) : Token :=
  (entries.get? name).getD .null

/-- A key names an entry. -/
def hasKey (entries : Entries) (key : Scalar) : Bool :=
  entries.any (·.1.sameKey key)

/-- A key given again keeps its place and takes the new value. -/
def insert (entries : Entries) (key : Scalar) (value : Token) : Entries :=
  if entries.hasKey key then
    entries.map fun (k, v) => if k.sameKey key then (k, value) else (k, v)
  else entries ++ [(key, value)]

/-- The entries of a list of pairs in which keys may repeat. -/
def ofPairs (pairs : List (Scalar × Token)) : Entries :=
  pairs.foldl (fun entries (key, value) => entries.insert key value) []

end Entries

end LocoSounds
