import ClassAtlas.Command.Answer
import ClassAtlas.Proofs.Instance.CacheSoundness
import ClassAtlas.Proofs.Instance.CacheTransparency
import ClassAtlas.Proofs.Reference.Conversion

/-! The list of all AIDL interfaces of a program with their implementations. A search
stores every interface, so each lookup after it is answered from the cache and leaves
the cache as it is. Of classes that share a name the last is stored, but they also share
their stub, and with it the implementation. -/
namespace ClassAtlas

/-- The classes of the AIDL shape, in class order, each with the first class that extends
its stub. -/
def ProgramGraph.implementations (g : ProgramGraph) : List (String × Option String) :=
  (g.allClasses.filter fun c => c.HasAidlShape).map fun c =>
    (c.fullName, AidlInterface.firstExtender? g.allClasses (c.fullName ++ "$Stub"))

/-- The names of the interfaces can be asked for as they are. -/
def ProgramGraph.NamesInterfacesInSource (g : ProgramGraph) : Prop :=
  ∀ c ∈ g.allClasses, c.HasAidlShape → classify c.fullName = .ok .source

namespace Command

/-- Every program that a command opens is new. -/
theorem fresh_of_openProgram {s : Surroundings} {options : ProgramOptions} {i : ProgramInstance}
    (opened : openProgram s options = .ok i) : ∃ g, i.program = some ⟨g, .empty⟩ := by
  have loads (new : ProgramInstance) (folder : Bool) : ∃ loaded,
      (if folder then new.loadFolder s.world else new.load s.world) = new.bindLoaded loaded := by
    cases folder with
    | true => exact ⟨new.readFolder s.world, rfl⟩
    | false => exact ⟨new.readFile s.world, rfl⟩
  unfold openProgram at opened
  cases found : findProvider s options.provider with
  | error complaint => rw [found] at opened; cases opened
  | ok provider =>
    obtain ⟨loaded, same⟩ := loads ⟨instanceId, inputPath s options.input, provider, none⟩
      (s.world.isFolder (inputPath s options.input))
    simp only [found, bind, Except.bind, pure, Except.pure, same] at opened
    cases loaded with
    | error why => cases opened
    | ok g => cases opened; exact ⟨g, rfl⟩

/-- Where every lookup is a hit, none of them changes what the next one finds. -/
theorem resolveEach_of_hits {i : ProgramInstance} {implementation : String → Option String}
    {names : List String}
    (hits : ∀ name ∈ names, ∃ found, i.aidlInterface name false = (.ok found, i) ∧
      found.implementation = implementation name) :
    resolveEach i names = .ok (names.map fun name => (name, implementation name)) := by
  induction names with
  | nil => rfl
  | cons name rest ih =>
    obtain ⟨found, answered, implemented⟩ := hits name List.mem_cons_self
    have others := ih fun other member => hits other (List.mem_cons_of_mem _ member)
    simp [resolveEach, answered, others, implemented, bind, Except.bind, pure, Except.pure]

/-- After a search of a new program the lookup of a listed name is a hit. -/
theorem aidlInterface_after_search {i : ProgramInstance} {g : ProgramGraph}
    (fresh : i.program = some ⟨g, .empty⟩) {c : ClassSymbol} (member : c ∈ g.allClasses)
    (shape : c.HasAidlShape) (source : classify c.fullName = .ok .source) :
    ∃ found,
      i.searchAidlClasses.2.aidlInterface c.fullName false =
        (.ok found, i.searchAidlClasses.2) ∧
      found.implementation =
        AidlInterface.firstExtender? g.allClasses (c.fullName ++ "$Stub") := by
  rw [ProgramInstance.searchAidlClasses_of_program fresh]
  dsimp only
  have sound : (ResolutionCache.empty.insertAll g.resolvedInterfaces).Sound g :=
    (ResolutionCache.sound_empty g).step .searched
  generalize searched : ResolutionCache.empty.insertAll g.resolvedInterfaces = cache at sound
  have loaded : (i.withCache cache).program = some ⟨g, cache⟩ := by
    rw [ProgramInstance.program_withCache, fresh]
    rfl
  have listed : c.asInterface.resolvedIn g.allClasses ∈ g.resolvedInterfaces :=
    List.mem_map_of_mem (List.mem_filterMap.2
      ⟨c, member, AidlInterface.detect?_eq_some_iff.2 ⟨shape, rfl⟩⟩)
  obtain ⟨found, stored⟩ : ∃ found, cache.get? c.fullName = some found := by
    rw [← searched]
    exact ResolutionCache.exists_get?_insertAll listed
  refine ⟨found, ?_, (sound _ (ResolutionCache.mem_entries_of_get? stored)).implementation⟩
  rw [ProgramInstance.aidlInterface_of_program loaded (inSource_of_source source),
    ResolutionCache.lookup_hit _ _ _ _ stored]
  exact congrArg _ (ProgramInstance.withCache_of_program loaded)

section Fresh
variable {i : ProgramInstance} {g : ProgramGraph} (fresh : i.program = some ⟨g, .empty⟩)
  (readable : g.NamesInterfacesInSource)
include fresh readable

theorem aidlClasses_of_fresh : aidlClasses i = .ok g.implementations := by
  have searched := ProgramInstance.searchAidlClasses_of_program fresh
  rw [AidlInterface.filterMap_detect?, List.map_map] at searched
  have resolved : resolveEach i.searchAidlClasses.2
      ((g.allClasses.filter fun c => c.HasAidlShape).map ClassSymbol.fullName) =
        .ok (((g.allClasses.filter fun c => c.HasAidlShape).map ClassSymbol.fullName).map
          fun name => (name, AidlInterface.firstExtender? g.allClasses (name ++ "$Stub"))) := by
    apply resolveEach_of_hits
    intro name named
    obtain ⟨c, listed, rfl⟩ := List.mem_map.1 named
    obtain ⟨member, shape⟩ := List.mem_filter.1 listed
    have shape : c.HasAidlShape := by simpa using shape
    exact aidlInterface_after_search fresh member shape (readable c member shape)
  rw [List.map_map] at resolved
  rw [aidlClasses, searched]
  rw [searched] at resolved
  exact resolved

theorem answerQuery_of_fresh (json : Bool) :
    answerQuery i json .aidlClasses = .ok (writeAidlClasses json g.implementations) := by
  rw [answerQuery, aidlClasses_of_fresh fresh readable]
  rfl

/-- A new program is answered with all its interfaces, in order, and with the right
implementations, both in what is listed and in what is printed. What a command opens is
such a program. -/
theorem answer_aidlClasses :
    aidlClasses i = .ok g.implementations ∧
      (∀ json, answerQuery i json .aidlClasses =
        .ok (writeAidlClasses json g.implementations)) ∧
      ∀ s options j p, openProgram s options = .ok j → j.program = some p → p.graph = g →
        answer s (.ask options .aidlClasses) =
          .ok (writeAidlClasses options.json g.implementations) := by
  refine ⟨aidlClasses_of_fresh fresh readable, answerQuery_of_fresh fresh readable, ?_⟩
  rintro s options j p opened loaded rfl
  obtain ⟨h, new⟩ := fresh_of_openProgram opened
  cases loaded.symm.trans new
  rw [answer, opened]
  exact answerQuery_of_fresh new readable options.json

end Fresh

/-! Two merged inputs declare an interface each under one name, and the first class that
extends its stub is nested in another. -/

def mergedGraph : ProgramGraph where
  classes := [
    ProgramInstance.twin "first",
    { fullName := "a.Host"
      innerClasses := [{ fullName := "a.Host.Service", superclass := some "a.I$Stub" }] },
    ProgramInstance.twin "second",
    { fullName := "a.Later", superclass := some "a.I$Stub" }]

def merged : ProgramInstance :=
  .bind ⟨instanceId, "merged", Snapshot.provider, none⟩ mergedGraph

theorem implementations_mergedGraph :
    mergedGraph.implementations =
      [("a.I", some "a.Host.Service"), ("a.I", some "a.Host.Service")] := by
  decide

theorem answer_aidlClasses_merged :
    merged.program = some ⟨mergedGraph, .empty⟩ ∧ mergedGraph.NamesInterfacesInSource ∧
      aidlClasses merged =
        .ok [("a.I", some "a.Host.Service"), ("a.I", some "a.Host.Service")] ∧
      answerQuery merged false .aidlClasses =
        .ok (writeAidlClasses false
          [("a.I", some "a.Host.Service"), ("a.I", some "a.Host.Service")]) := by
  have readable : mergedGraph.NamesInterfacesInSource := by
    unfold ProgramGraph.NamesInterfacesInSource
    decide
  have answered := answer_aidlClasses (i := merged) rfl readable
  rw [implementations_mergedGraph] at answered
  exact ⟨rfl, readable, answered.1, answered.2.1 false⟩

end Command

end ClassAtlas
