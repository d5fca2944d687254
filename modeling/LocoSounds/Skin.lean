/-! Sources of the skins that cars wear. -/

namespace LocoSounds

/-- A type whose values know the skins of cars, each lookup giving way to the value for the next. -/
class SkinSource (π : Type) where
  lookup : π → String → Option String × π

/-- Where there is no source, no car has a skin. -/
instance [SkinSource π] : SkinSource (Option π) where
  lookup
    | none, _ => (none, none)
    | some source, carId =>
      let (skin, source) := SkinSource.lookup source carId
      (skin, some source)

/-- Skins that never change, under the ids of their cars. -/
structure FixedSkins where
  skins : List (String × String)

instance : SkinSource FixedSkins where
  lookup source carId := (source.skins.lookup carId, source)

end LocoSounds
