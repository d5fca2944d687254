import LocoSounds.Library.Files
import LocoSounds.Proofs.Registry.Build

/-! Loading step by step, and what a registry that was loaded has passed. -/

namespace LocoSounds

/-- Of two steps the second one starts where the first one ended, unless that one failed. -/
theorem Loading.run_bind {α β : Type} (first : Loading α) (next : α → Loading β)
    (library : Library) : (first >>= next).run library =
      match first.run library with
      | (.ok given, between) => (next given).run between
      | (.error error, between) => (.error error, between) := by
  -- The two layers of the monad are opened once here, so that no other proof has to.
  have unfolded : (first >>= next).run library =
      ExceptT.bindCont next (first.run library).1 (first.run library).2 := rfl
  rw [unfolded]
  rcases first.run library with ⟨_ | given, between⟩ <;> rfl

/-- Building fails where the registry of the merged sections does, and changes the journal alone. -/
theorem Library.run_build (carTypes : Token) (library : Library) :
    (Library.build carTypes).run library =
      match Registry.build (.mapping library.rules) (.mapping library.sounds) carTypes with
      | .ok registry =>
        (.ok registry, { library with journal := library.journal ++ registry.builtEvents })
      | .error error => (.error (.build error), library) := by
  -- Building looks at the two sections and writes nothing but the events of a success.
  have unchanged : (get : Loading Library).run library = (.ok library, library) := rfl
  rw [Library.build, Loading.run_bind, unchanged]
  -- What is left is the registry's own success or failure.
  dsimp only
  cases Registry.build (.mapping library.rules) (.mapping library.sounds) carTypes <;> rfl

/-- A registry that comes of building last of all resolves. -/
theorem Library.resolve_of_run_build {first : Loading Unit} {library : Library} {carTypes : Token}
    {registry : Registry}
    (done : ((first >>= fun _ => Library.build carTypes).run library).1 = .ok registry) :
    registry.resolve = .ok () := by
  -- The steps before may fail; where they do not, what they left is what is built from.
  rw [Loading.run_bind] at done
  rcases ran : first.run library with ⟨_ | given, between⟩ <;> rw [ran] at done
  · cases done
  · dsimp only at done
    rw [run_build] at done
    -- The step of building gives a registry only if one is built.
    cases built : Registry.build (.mapping between.rules) (.mapping between.sounds) carTypes <;>
      rw [built] at done <;> cases done
    exact (Registry.build_eq_ok_iff.mp built).2.2.2

/-- A registry that was loaded resolves. -/
theorem Registry.resolve_of_load {tree : FileTree} {path : FilePath} {carTypes : Token}
    {registry : Registry} (loaded : (Registry.load tree path carTypes).1 = .ok registry) :
    registry.resolve = .ok () := by
  -- Both ways of loading end in a build.
  unfold Registry.load Library.loadAll at loaded
  -- Whether it is a directory or a file that is merged, the registry is built after it.
  by_cases directory : (tree.find? path).any FileTree.isDirectory
  · rw [if_pos directory] at loaded
    exact Library.resolve_of_run_build loaded
  · rw [if_neg directory] at loaded
    exact Library.resolve_of_run_build loaded

end LocoSounds
