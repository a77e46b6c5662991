import ClassAtlas.Proofs.Instance.Run

/-! Whatever is done to an instance, its interface cache speaks of the program
that is bound now. Each entry was taken from a class of that program, and its
implementation is the first class that extends the stub. Several classes may
share a name, so an entry is of some class of its name, not always of the first. -/
namespace ClassAtlas

/-- What an entry under a name says of a program. -/
structure AidlInterface.Describes (i : AidlInterface) (name : String) (g : ProgramGraph) :
    Prop where
  interfaceName : i.interfaceName = name
  declared : ∃ c ∈ g.allClasses, c.fullName = name ∧ c.HasAidlShape ∧
    i.methods = c.methods.map MethodSymbol.signature
  implementation : i.implementation =
    (g.allClasses.find? fun c => c.superclass = some (name ++ "$Stub")).map ClassSymbol.fullName

def ResolutionCache.Sound (cache : ResolutionCache) (g : ProgramGraph) : Prop :=
  ∀ entry ∈ cache.entries, entry.2.Describes entry.1 g

def ProgramInstance.CacheSound (i : ProgramInstance) : Prop :=
  ∀ p, i.program = some p → p.cache.Sound p.graph

def ProgramInstance.ofPath (id path : String) (provider : Provider) : ProgramInstance :=
  ⟨id, path, provider, none⟩

namespace ProgramGraph

theorem describes_of_detect? {g : ProgramGraph} {c : ClassSymbol} {i : AidlInterface}
    (member : c ∈ g.allClasses) (detected : AidlInterface.detect? c = some i) :
    (i.resolvedIn g.allClasses).Describes (i.resolvedIn g.allClasses).interfaceName g := by
  obtain ⟨shape, rfl⟩ := AidlInterface.detect?_eq_some_iff.1 detected
  exact ⟨rfl, ⟨c, member, rfl, shape, rfl⟩, rfl⟩

theorem describes_interface? {g : ProgramGraph} {name : String} {i : AidlInterface}
    (found : g.interface? name = some i) : i.Describes i.interfaceName g := by
  obtain ⟨unresolved, bound, rfl⟩ := Option.map_eq_some_iff.1 found
  obtain ⟨c, located, detected⟩ := Option.bind_eq_some_iff.1 bound
  exact describes_of_detect? (List.mem_of_find?_eq_some located) detected

theorem describes_resolvedInterfaces {g : ProgramGraph} {i : AidlInterface}
    (member : i ∈ g.resolvedInterfaces) : i.Describes i.interfaceName g := by
  obtain ⟨unresolved, listed, rfl⟩ := List.mem_map.1 member
  obtain ⟨c, inGraph, detected⟩ := List.mem_filterMap.1 listed
  exact describes_of_detect? inGraph detected

end ProgramGraph

namespace ResolutionCache

theorem sound_empty (g : ProgramGraph) : empty.Sound g := by
  intro entry member
  cases member

theorem Sound.step {g : ProgramGraph} {cache cache' : ResolutionCache} (sound : cache.Sound g)
    (step : CacheStep g cache cache') : cache'.Sound g := by
  intro entry member
  cases step with
  | kept => exact sound entry member
  | searched =>
    rcases mem_entries_insertAll member with ⟨i, listed, rfl⟩ | old
    · exact ProgramGraph.describes_resolvedInterfaces listed
    · exact sound entry old
  | looked found =>
    rcases mem_entries_insert member with rfl | old
    · exact ProgramGraph.describes_interface? found
    · exact sound entry old

end ResolutionCache

namespace ProgramInstance

theorem CacheSound.perform {i : ProgramInstance} (sound : i.CacheSound) (a : Action) :
    (i.perform a).CacheSound := by
  intro p loaded
  rcases program_perform i a with absent | ⟨graph, fresh⟩ | ⟨before, cache, was, step, now⟩
  · rw [absent] at loaded
    cases loaded
  · rw [fresh] at loaded
    cases loaded
    exact ResolutionCache.sound_empty graph
  · rw [now] at loaded
    cases loaded
    exact (sound before was).step step

theorem aidlInterface_of_error {i : ProgramInstance} {interfaceName : String} {force : Bool}
    {why : Failure} (failed : (i.aidlInterface interfaceName force).1 = .error why) :
    (i.aidlInterface interfaceName force).2 = i := by
  cases loaded : i.program with
  | none => rw [aidlInterface_of_not_loaded loaded]
  | some p =>
    cases normal : normalizeClassName interfaceName with
    | error malformed => rw [aidlInterface_of_malformed loaded normal]
    | ok name =>
      rw [aidlInterface_of_program loaded normal] at failed ⊢
      dsimp only at failed ⊢
      rw [ResolutionCache.cache_lookup_of_error _ _ _ _ failed, withCache_of_program loaded]

/-- The cache is sound in every state of every run from an instance with nothing
loaded, and in none of them does a lookup that fails change anything. -/
theorem cacheSound_run (id path : String) (provider : Provider) (actions : List Action) :
    ((ofPath id path provider).run actions).CacheSound ∧
      ∀ interfaceName force why,
        (((ofPath id path provider).run actions).aidlInterface interfaceName force).1 =
            .error why →
          (((ofPath id path provider).run actions).aidlInterface interfaceName force).2 =
            (ofPath id path provider).run actions := by
  constructor
  · apply run_induction (P := CacheSound)
    · intro i a sound
      exact sound.perform a
    · intro p loaded
      cases loaded
  · intro interfaceName force why failed
    exact aidlInterface_of_error failed

end ProgramInstance

end ClassAtlas
