import LocoSounds.Binary64.Arithmetic
import LocoSounds.Skin

/-! A cache between rules and the manager that knows all skins. -/

namespace LocoSounds

/-- The skins of cars, under their ids. -/
abbrev Skins := List (String × String)

/-- What a skin manager answers when it is asked for all skins. -/
inductive SkinReport where
  | skins (skins : Skins)
  /-- The manager cannot be reached for now. -/
  | unavailable
  /-- The manager broke down. -/
  | failed
  deriving DecidableEq

/-- A skin manager: what it answers, and how often it was asked. -/
structure SkinManager where
  report : SkinReport
  calls : Nat
  deriving DecidableEq

/-- A failure of the skin manager on the way. -/
inductive SkinFailure where
  | managerFailed
  deriving DecidableEq

/-- The skins that were fetched last, with counts of the lookups that found them here or did not. -/
structure SkinCache where
  manager : SkinManager
  snapshot : Option Skins
  hits : Nat
  misses : Nat
  deriving DecidableEq

/-- Asks a manager once more. -/
def SkinManager.ask (manager : SkinManager) : SkinReport × SkinManager :=
  (manager.report, { manager with calls := manager.calls + 1 })

/-- What a cache holds, and how its lookups went. -/
structure SkinStats where
  cached : Bool
  /-- The number of cars whose skins are here. -/
  size : Nat
  hits : Nat
  misses : Nat
  /-- The part of lookups that found skins here. -/
  hitRate : Binary64
  deriving DecidableEq

namespace SkinCache

/-- A cache without skins. -/
def start (report : SkinReport) : SkinCache := ⟨⟨report, 0⟩, none, 0, 0⟩

/-- The skins of all cars, fetched if there are none here. Only skins are kept. -/
def fetch (cache : SkinCache) : Except SkinFailure (Option Skins) × SkinCache :=
  match cache.snapshot with
  | some skins => (.ok (some skins), { cache with hits := cache.hits + 1 })
  | none =>
    let (report, manager) := cache.manager.ask
    -- It is a miss whatever the manager answers.
    let cache := { cache with manager, misses := cache.misses + 1 }
    match report with
    | .skins skins => (.ok (some skins), { cache with snapshot := some skins })
    | .unavailable => (.ok none, cache)
    | .failed => (.error .managerFailed, cache)

/-- The skin of a car, if it is known. -/
def lookup (cache : SkinCache) (carId : String) : Except SkinFailure (Option String) × SkinCache :=
  let (skins, cache) := cache.fetch
  (skins.map fun skins => skins.bind (List.lookup carId ·), cache)

/-- Forgets the skins, and tells whether there were any to forget. -/
def invalidate (cache : SkinCache) : Bool × SkinCache :=
  (cache.snapshot.isSome, { cache with snapshot := none })

/-- The cache when its manager has come to answer something else. -/
def withReport (cache : SkinCache) (report : SkinReport) : SkinCache :=
  { cache with manager := { cache.manager with report } }

/-- The number of cars whose skins are here. -/
def size (cache : SkinCache) : Nat := (cache.snapshot.getD []).length

/-- The part of lookups that found skins here, zero before the first lookup. -/
def hitRate (cache : SkinCache) : Binary64 :=
  let lookups := cache.hits + cache.misses
  if lookups = 0 then .zero else .ofRatio cache.hits lookups

/-- What a cache holds and counts. -/
def stats (cache : SkinCache) : SkinStats :=
  ⟨cache.snapshot.isSome, cache.size, cache.hits, cache.misses, cache.hitRate⟩

/-- A lookup leaves what the manager answers as it is. -/
theorem report_lookup (cache : SkinCache) (carId : String) :
    (cache.lookup carId).2.manager.report = cache.manager.report := by
  -- At most the manager is asked once more, and the skins that it gives are kept.
  obtain ⟨⟨report, calls⟩, snapshot, hits, misses⟩ := cache
  cases snapshot with
  | some skins => rfl
  | none => cases report <;> rfl

/-- A lookup fails only where the manager breaks down. -/
theorem report_of_lookup_eq_error {cache : SkinCache} {carId : String} {failure : SkinFailure}
    (failed : (cache.lookup carId).1 = .error failure) : cache.manager.report = .failed := by
  -- Skins that are here are found, and a manager that answers lets the lookup end well.
  obtain ⟨⟨report, calls⟩, snapshot, hits, misses⟩ := cache
  cases snapshot with
  | some skins => cases failed
  | none =>
    cases report with
    | failed => rfl
    | _ => cases failed

end SkinCache

/-- A cache whose manager does not break down. Only from such a one rules look skins up: what they do
when a lookup fails is left open. -/
structure ReliableCache where
  cache : SkinCache
  reliable : cache.manager.report ≠ .failed

namespace ReliableCache

/-- The skin of a car, if it is known, and the cache afterwards. -/
def lookup (source : ReliableCache) (carId : String) : Option String × ReliableCache :=
  let next : ReliableCache :=
    ⟨(source.cache.lookup carId).2, (source.cache.report_lookup carId).symm ▸ source.reliable⟩
  match found : (source.cache.lookup carId).1 with
  | .ok skin => (skin, next)
  | .error _ => absurd (SkinCache.report_of_lookup_eq_error found) source.reliable

instance : SkinSource ReliableCache := ⟨lookup⟩

end ReliableCache

end LocoSounds
