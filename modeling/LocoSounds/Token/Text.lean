import LocoSounds.Token
import LocoSounds.Binary64.Text
import LocoSounds.Text.Quoted

/-! Written forms of document values in messages. Nothing that holds an integer of too many digits has
one. -/

namespace LocoSounds

namespace Scalar

/-- The name of a scalar's type. -/
def typeName : Scalar → String
  | .null => "NoneType"
  | .bool _ => "bool"
  | .int _ => "int"
  | .float _ | .sharedNan => "float"
  | .text _ => "str"
  | .date _ => "date"
  | .dateTime _ => "datetime"
  | .bytes _ => "bytes"

/-- A time with its numbers down to the last that is not zero, seconds and smaller ones. -/
def timeLiteral (time : DateTime) : String :=
  let smaller := if time.microsecond = 0 then if time.second = 0 then [] else [time.second]
    else [time.second, time.microsecond]
  let numbers := [time.date.year, time.date.month, time.date.day, time.hour, time.minute] ++ smaller
  let zone := match time.offset with
    | none => []
    | some 0 => ["tzinfo=datetime.timezone.utc"]
    | some minutes => ["tzinfo=datetime.timezone(" ++ spanLiteral minutes ++ ")"]
  "datetime.datetime(" ++ ", ".intercalate (numbers.map toString ++ zone) ++ ")"

/-- A scalar as it stands inside a list: texts are quoted, dates and times named as such. -/
def literal? : Scalar → Option String
  | .null => some "None"
  | .bool true => some "True"
  | .bool false => some "False"
  | .int value => integerText? value
  | .float value => some value.text
  | .sharedNan => some Binary64.nan.text
  | .text value => some (quoted value)
  | .date value => some (
    "datetime.date(" ++ toString value.year ++ ", " ++ toString value.month ++ ", "
      ++ toString value.day ++ ")")
  | .dateTime value => some (timeLiteral value)
  | .bytes value => some (quotedBytes value)

/-- A scalar by itself: a text is itself, a date has hyphens and a time colons. -/
def plain? : Scalar → Option String
  | .text value => some value
  | .date value => some value.text
  | .dateTime value => some value.text
  | other => other.literal?

end Scalar

namespace Token

/-- The name of a token's type. -/
def typeName : Token → String
  | .scalar value => value.typeName
  | .list _ => "list"
  | .tuple _ => "tuple"
  | .set _ => "set"
  | .mapping _ => "dict"

mutual

/-- A token as it stands inside a list. -/
def literal? : Token → Option String
  | .scalar value => value.literal?
  | .list items => do return "[" ++ ", ".intercalate (← literals? items) ++ "]"
  -- A single item keeps its comma, which tells it from an item in parentheses.
  | .tuple [item] => do return "(" ++ (← item.literal?) ++ ",)"
  | .tuple items => do return "(" ++ ", ".intercalate (← literals? items) ++ ")"
  | .set [] => some "set()"
  | .set members => do
    return "\x7b" ++ ", ".intercalate (← members.mapM Scalar.literal?) ++ "\x7d"
  | .mapping entries => do return "\x7b" ++ ", ".intercalate (← entryLiterals? entries) ++ "\x7d"

/-- The items of a list. -/
def literals? : List Token → Option (List String)
  | [] => some []
  | item :: rest => do return (← item.literal?) :: (← literals? rest)

/-- The entries of a mapping, each key before its value. -/
def entryLiterals? : List (Scalar × Token) → Option (List String)
  | [] => some []
  | (key, value) :: rest => do
    return ((← key.literal?) ++ ": " ++ (← value.literal?)) :: (← entryLiterals? rest)

end

/-- A token by itself: only scalars differ from their literals. -/
def plain? : Token → Option String
  | .scalar value => value.plain?
  | other => other.literal?

/-- The values met when a token is gone through: items, characters or keys. Other scalars have none. -/
def elements? : Token → Option (List Token)
  | .list items => some items
  | .tuple items => some items
  | .set members => some (members.map .scalar)
  | .mapping entries => some (entries.map fun (key, _) => .scalar key)
  | .scalar (.text value) => some (value.toList.map fun c => .text (String.singleton c))
  | .scalar _ => none

end Token

end LocoSounds
