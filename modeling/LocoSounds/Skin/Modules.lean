import LocoSounds.Journal
import LocoSounds.Skin
import LocoSounds.Text.Lines

/-! Modules that hold sources of skins, found by name. -/

namespace LocoSounds

/-- What a member of a module is good for. -/
inductive Member (π : Type) where
  /-- It knows skins itself. -/
  | source (source : π)
  /-- It makes something when called, which may know skins. -/
  | maker (made : Option π)
  /-- It makes something only from things that it is not given. -/
  | dependentMaker
  /-- It neither knows skins nor makes anything. -/
  | other

/-- Modules with their members. -/
abbrev Modules (π : Type) := List (String × List (String × Member π))

/-- Why looking for a source of skins comes to no end. -/
inductive ProviderFault where
  | emptyModuleName
  /-- A name that starts with a dot is relative to another one. -/
  | relativeModuleName
  /-- What should make the source lacks what it makes it from. -/
  | notMade
  deriving DecidableEq

/-- The wording of a provider fault. -/
def ProviderFault.message : ProviderFault → String
  | .emptyModuleName => "Empty module name"
  | .relativeModuleName => "A relative module name needs a package"
  | .notMade => "The provider cannot be made without arguments"

/-- The text before the first colon and the text behind it, which is empty without a colon. -/
def splitAtColon (text : String) : String × String :=
  let chars := text.toList
  let before := chars.takeWhile (· ≠ ':')
  (String.ofList before, String.ofList (chars.drop (before.length + 1)))

/-- The name of the member that is looked for unless another one is named. -/
def defaultMember : String := "provider"

namespace Modules

variable {π : Type}

/-- Why there is no module of a name. A name with dots is looked for in its first part, and as no
module holds others, the second part is missing there. -/
def absence (modules : Modules π) (name : String) : ModuleAbsence :=
  match pieces '.' name.toList with
  | first :: second :: _ =>
    let outer := String.ofList first
    if (modules.lookup outer).isSome then
      .notPackage (outer ++ "." ++ String.ofList second) outer
    else .noSuchModule outer
  | _ => .noSuchModule name

/-- The source of skins that a member is or makes, if there is one. -/
def sourceOf : Member π → Except ProviderFault (Option π)
  | .source source => .ok (some source)
  | .maker made => .ok made
  | .dependentMaker => .error .notMade
  | .other => .ok none

/-- The source of skins that a text names: a module and, after a colon, a member of it.
Whatever is missing is recorded and counts as no source. -/
def load (modules : Modules π) (text : String) : Except ProviderFault (Option π × List Event) :=
  let (name, member) := splitAtColon text
  if text.isEmpty then .ok (none, [])
  else if name.isEmpty then .error .emptyModuleName
  else if name.startsWith "." then .error .relativeModuleName
  else match modules.lookup name with
    | none => .ok (none, [.providerModuleMissing name (modules.absence name)])
    | some members =>
      match members.lookup (if member.isEmpty then defaultMember else member) with
      | none => .ok (none, [.providerMissing member name])
      | some found =>
        match sourceOf found with
        | .error fault => .error fault
        | .ok none => .ok (none, [.providerUnfit text])
        | .ok (some source) => .ok (some source, [.providerUsed text])

end Modules

end LocoSounds
