import LocoSounds.Proofs.Skin.Cache

/-! Sources of skins that cannot be told apart by what they answer. -/

namespace LocoSounds

namespace SkinSource

section

variable {π ρ τ : Type} [SkinSource π] [SkinSource ρ] [SkinSource τ]

/-- What a source answers to lookups of some cars, one after the other. -/
def replies (source : π) : List String → List (Option String)
  | [] => []
  | carId :: rest => (lookup source carId).1 :: replies (lookup source carId).2 rest

/-- Two sources answer alike for some cars: to the same lookups of these, in whatever order and however
often, they give the same answers. -/
def AlikeFor (carIds : List String) (source : π) (other : ρ) : Prop :=
  ∀ lookups, lookups ⊆ carIds → replies source lookups = replies other lookups

/-- For some cars a source answers as if their skins were fixed. -/
def Steady (carIds : List String) (source : π) : Prop :=
  ∃ fixed : FixedSkins, AlikeFor carIds source fixed

/-- Sources that stand in a relation answer a lookup of a car alike, and stand in it afterwards. -/
def KeptBy (worn : π → ρ → Prop) (carId : String) : Prop :=
  ∀ source other, worn source other →
    (lookup source carId).1 = (lookup other carId).1 ∧
      worn (lookup source carId).2 (lookup other carId).2

variable {carIds : List String} {carId : String} {source : π} {other : ρ} {third : τ}

/-- A source answers like itself. -/
theorem AlikeFor.refl (carIds : List String) (source : π) : AlikeFor carIds source source :=
  fun _ _ => rfl

/-- What answers like the same source answers alike. -/
theorem AlikeFor.of_common (alike : AlikeFor carIds source third)
    (others : AlikeFor carIds other third) : AlikeFor carIds source other :=
  fun lookups known => (alike lookups known).trans (others lookups known).symm

/-- Answering alike is kept by each lookup of one of the cars. -/
theorem AlikeFor.keptBy (member : carId ∈ carIds) :
    KeptBy (AlikeFor carIds : π → ρ → Prop) carId := by
  -- All answers agree, so the first ones do, and so do all that come after them.
  intro source other alike
  -- The lookup itself comes before any that follow.
  have both : ∀ lookups, lookups ⊆ carIds →
      (lookup source carId).1 :: replies (lookup source carId).2 lookups =
        (lookup other carId).1 :: replies (lookup other carId).2 lookups :=
    fun lookups known => alike (carId :: lookups) (List.cons_subset.mpr ⟨member, known⟩)
  exact ⟨(List.cons.inj (both [] (List.nil_subset _))).1,
    fun lookups known => (List.cons.inj (both lookups known)).2⟩

/-- Sources in a relation that lookups of some cars keep answer alike for these cars. -/
theorem AlikeFor.of_keptBy (worn : π → ρ → Prop) (kept : ∀ carId ∈ carIds, KeptBy worn carId)
    (start : worn source other) : AlikeFor carIds source other := by
  -- By induction on the lookups; each is answered alike and leaves the sources related.
  intro lookups known
  induction lookups generalizing source other with
  | nil => rfl
  | cons carId rest ih =>
    obtain ⟨member, later⟩ := List.cons_subset.mp known
    obtain ⟨same, next⟩ := kept carId member source other start
    rw [replies, replies, same, ih next later]

/-- Answering like fixed skins is kept by each lookup of one of the cars. -/
theorem AlikeFor.keptBy_fixed (fixed : FixedSkins) (member : carId ∈ carIds) :
    KeptBy (fun (source : π) (other : FixedSkins) => AlikeFor carIds source other ∧ other = fixed)
      carId := by
  -- Fixed skins are not changed by a lookup, so the relation holds of the same ones again.
  rintro source other ⟨alike, rfl⟩
  obtain ⟨same, next⟩ := AlikeFor.keptBy member source other alike
  exact ⟨same, next, rfl⟩

end

/-- A cache that holds no skins answers with those of its manager, which reports the same each time. -/
theorem steady_cache (carIds : List String) (source : ReliableCache) : Steady carIds source := by
  -- The fixed skins are those that are held, or else those that the manager would answer.
  let known (source : ReliableCache) : Skins :=
    (source.cache.snapshot.or source.cache.manager.report.skins?).getD []
  refine ⟨⟨known source⟩, .of_keptBy (fun source fixed => fixed = ⟨known source⟩) ?_ rfl⟩
  rintro carId _ ⟨⟨⟨report, calls⟩, snapshot, hits, misses⟩, reliable⟩ _ rfl
  -- Skins that are fetched are those that the manager reports from then on.
  cases snapshot with
  | some skins => exact ⟨rfl, rfl⟩
  | none =>
    cases report with
    | failed => exact absurd rfl reliable
    | _ => exact ⟨rfl, rfl⟩

end SkinSource

end LocoSounds
