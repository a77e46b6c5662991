import ClassAtlas.Proofs.Instance.Run
import ClassAtlas.Provider.Snapshot

/-! Whether earlier questions can be told from the answer to a lookup. The cache
has two writers: a lookup stores the interface of the first class of a name, a
search those of all classes, of which the last of a name stays. The answer under
a name is free of the history exactly if the two agree on that name. -/
namespace ClassAtlas

namespace ProgramGraph

def searchedInterface? (g : ProgramGraph) (name : String) : Option AidlInterface :=
  (g.resolvedInterfaces.filter fun i => i.interfaceName = name).getLast?

/-- The first class of a name is detected as the same interface as the last class
of the name that has the AIDL shape; if none has, the first has not. -/
def AgreesOn (g : ProgramGraph) (name : String) : Prop :=
  (g.findClass? name).bind AidlInterface.detect? =
    ((g.allClasses.filter fun c => c.fullName = name).filterMap
      AidlInterface.detect?).getLast?

theorem interfaceName_of_interface? {g : ProgramGraph} {name : String} {i : AidlInterface}
    (found : g.interface? name = some i) : i.interfaceName = name := by
  obtain ⟨unresolved, bound, rfl⟩ := Option.map_eq_some_iff.1 found
  obtain ⟨c, located, detected⟩ := Option.bind_eq_some_iff.1 bound
  rw [AidlInterface.interfaceName_resolvedIn, AidlInterface.interfaceName_of_detect? detected]
  simpa using List.find?_some located

theorem mem_resolvedInterfaces_of_interface? {g : ProgramGraph} {name : String}
    {i : AidlInterface} (found : g.interface? name = some i) : i ∈ g.resolvedInterfaces := by
  obtain ⟨unresolved, bound, rfl⟩ := Option.map_eq_some_iff.1 found
  obtain ⟨c, located, detected⟩ := Option.bind_eq_some_iff.1 bound
  have listed := List.mem_filterMap.2 ⟨c, List.mem_of_find?_eq_some located, detected⟩
  exact List.mem_map_of_mem listed

theorem interface?_eq_none_of_searched {g : ProgramGraph} {name : String}
    (passed : g.searchedInterface? name = none) : g.interface? name = none := by
  cases found : g.interface? name with
  | none => rfl
  | some i =>
    have kept : i ∈ g.resolvedInterfaces.filter fun i => i.interfaceName = name :=
      List.mem_filter.2 ⟨mem_resolvedInterfaces_of_interface? found, by
        simpa using interfaceName_of_interface? found⟩
    rw [List.getLast?_eq_none_iff.1 passed] at kept
    cases kept

private theorem filter_filterMap_detect? (classes : List ClassSymbol) (name : String) :
    (classes.filterMap AidlInterface.detect?).filter (fun i => i.interfaceName = name) =
      (classes.filter fun c => c.fullName = name).filterMap AidlInterface.detect? := by
  induction classes with
  | nil => rfl
  | cons c rest ih =>
    cases detected : AidlInterface.detect? c with
    | none => by_cases named : c.fullName = name <;> simp [detected, named, ih]
    | some i =>
      have same := AidlInterface.interfaceName_of_detect? detected
      by_cases named : c.fullName = name <;> simp [detected, same, named, ih]

theorem searchedInterface?_eq (g : ProgramGraph) (name : String) :
    g.searchedInterface? name =
      (((g.allClasses.filter fun c => c.fullName = name).filterMap
        AidlInterface.detect?).getLast?).map fun i => i.resolvedIn g.allClasses := by
  unfold searchedInterface? resolvedInterfaces
  rw [List.filter_map, ← List.getLast?_map, ← filter_filterMap_detect?]
  rfl

/-- Both writers resolve in the same list, so they agree on what they store if and
only if they agree on what they detect. -/
theorem agreesOn_iff {g : ProgramGraph} {name : String} :
    g.AgreesOn name ↔ g.interface? name = g.searchedInterface? name := by
  rw [searchedInterface?_eq]
  unfold AgreesOn interface?
  constructor
  · intro agree
    rw [agree]
  · have unresolved {i : AidlInterface} {classes : List ClassSymbol}
        (last : ((classes.filterMap AidlInterface.detect?).getLast?) = some i) :
        i.implementation = none := by
      obtain ⟨c, _, detected⟩ := List.mem_filterMap.1 (List.mem_of_getLast? last)
      rw [(AidlInterface.detect?_eq_some_iff.1 detected).2]
      rfl
    intro same
    cases first : (g.findClass? name).bind AidlInterface.detect? with
    | none =>
      rw [first] at same
      exact (Option.map_eq_none_iff.1 same.symm).symm
    | some i =>
      rw [first] at same
      obtain ⟨j, last, resolved⟩ := Option.map_eq_some_iff.1 same.symm
      obtain ⟨c, _, detected⟩ := Option.bind_eq_some_iff.1 first
      rw [last, AidlInterface.eq_of_resolvedIn_eq _ resolved]
      rw [unresolved last, (AidlInterface.detect?_eq_some_iff.1 detected).2]
      rfl

theorem agreesOn_of_nodup {g : ProgramGraph}
    (distinct : (g.allClasses.map ClassSymbol.fullName).Nodup) (name : String) :
    g.AgreesOn name := by
  unfold AgreesOn findClass?
  rw [← List.head?_filter]
  have single := (List.filter_sublist (p := fun c : ClassSymbol => c.fullName = name)
    (l := g.allClasses)).map ClassSymbol.fullName |>.nodup distinct
  have named : ∀ c ∈ g.allClasses.filter fun c => c.fullName = name, c.fullName = name :=
    fun c member => by simpa using (List.mem_filter.1 member).2
  generalize g.allClasses.filter (fun c => c.fullName = name) = kept at single named ⊢
  match kept with
  | [] => rfl
  | [c] => cases detected : AidlInterface.detect? c <;> simp [detected]
  | c :: d :: rest => simp [named c, named d] at single

end ProgramGraph

namespace ResolutionCache

/-- Each entry is what one of the two writers stores under its name. -/
def WrittenFrom (cache : ResolutionCache) (g : ProgramGraph) : Prop :=
  ∀ name i, cache.get? name = some i →
    g.interface? name = some i ∨ g.searchedInterface? name = some i

theorem WrittenFrom.step {g : ProgramGraph} {cache cache' : ResolutionCache}
    (written : cache.WrittenFrom g) (step : CacheStep g cache cache') :
    cache'.WrittenFrom g := by
  intro name i stored
  cases step with
  | kept => exact written name i stored
  | searched =>
    rw [get?_insertAll] at stored
    rcases Option.or_eq_some_iff.1 stored with last | ⟨_, old⟩
    · exact .inr last
    · exact written name i old
  | looked found =>
    rw [get?_insert] at stored
    split at stored
    · next same =>
      cases stored
      rw [ProgramGraph.interfaceName_of_interface? found] at same
      exact .inl (same ▸ found)
    · exact written name i stored

end ResolutionCache

namespace ProgramInstance

theorem program_after {i : ProgramInstance} {g : ProgramGraph} {cache : ResolutionCache}
    (loaded : i.program = some ⟨g, cache⟩) (written : cache.WrittenFrom g)
    (history : List Question) :
    ∃ later : ResolutionCache, later.WrittenFrom g ∧
      (i.after history).program = some ⟨g, later⟩ := by
  induction history generalizing i cache with
  | nil => exact ⟨cache, written, loaded⟩
  | cons q rest ih =>
    obtain ⟨next, step, same⟩ := ask_cacheStep loaded q
    have loadedNext : (i.ask q).2.program = some ⟨g, next⟩ := by
      rw [same, program_withCache, loaded]
      rfl
    exact ih loadedNext (written.step step)

theorem program_bind_after (i : ProgramInstance) (g : ProgramGraph) (history : List Question) :
    ∃ cache : ResolutionCache, cache.WrittenFrom g ∧
      ((i.bind g).after history).program = some ⟨g, cache⟩ := by
  have written : ResolutionCache.empty.WrittenFrom g := by
    intro name found stored
    cases stored
  exact program_after rfl written history

section Answers
variable {i : ProgramInstance} {g : ProgramGraph} {cache : ResolutionCache}
  (loaded : i.program = some ⟨g, cache⟩) {n name : String}
  (normal : normalizeClassName n = .ok name)
include loaded normal

theorem aidlInterface_forced :
    (i.aidlInterface n true).1 = ResolutionCache.computed g.allClasses name g.findClass? := by
  rw [aidlInterface_of_program loaded normal, ResolutionCache.lookup_force]
  exact ResolutionCache.answer_compute _ _ _ _

theorem aidlInterface_cached {hit : AidlInterface} (stored : cache.get? name = some hit) :
    (i.aidlInterface n false).1 = .ok hit := by
  rw [aidlInterface_of_program loaded normal, ResolutionCache.lookup_hit _ _ _ _ stored]

theorem aidlInterface_uncached (missing : cache.get? name = none) :
    (i.aidlInterface n false).1 = ResolutionCache.computed g.allClasses name g.findClass? := by
  rw [aidlInterface_of_program loaded normal, ResolutionCache.lookup_miss _ _ _ _ missing]
  exact ResolutionCache.answer_compute _ _ _ _

theorem aidlInterface_of_agreesOn (written : cache.WrittenFrom g) (agree : g.AgreesOn name)
    (force : Bool) :
    (i.aidlInterface n force).1 =
      ResolutionCache.computed g.allClasses name g.findClass? := by
  cases force with
  | true => exact aidlInterface_forced loaded normal
  | false =>
    cases stored : cache.get? name with
    | none => exact aidlInterface_uncached loaded normal stored
    | some hit =>
      have found : g.interface? name = some hit := by
        rcases written name hit stored with first | last
        · exact first
        · rw [ProgramGraph.agreesOn_iff.1 agree, last]
      rw [aidlInterface_cached loaded normal stored, computed_eq_ok_iff.2 found]

end Answers

theorem agreesOn_of_answer_after_search {i : ProgramInstance} {g : ProgramGraph}
    {n name : String} (normal : normalizeClassName n = .ok name)
    (same : (((i.bind g).after [.searchAidlClasses]).aidlInterface n false).1 =
      ResolutionCache.computed g.allClasses name g.findClass?) : g.AgreesOn name := by
  have loaded : ((i.bind g).after [.searchAidlClasses]).program =
      some ⟨g, ResolutionCache.empty.insertAll g.resolvedInterfaces⟩ := by
    have bound : (i.bind g).program = some ⟨g, .empty⟩ := rfl
    rw [after_cons, after_nil, ask, searchAidlClasses_of_program bound, program_withCache, bound]
    rfl
  have stored : (ResolutionCache.empty.insertAll g.resolvedInterfaces).get? name =
      g.searchedInterface? name := by
    rw [ResolutionCache.get?_insertAll, ResolutionCache.get?_empty, Option.or_none]
    rfl
  rw [ProgramGraph.agreesOn_iff]
  cases last : g.searchedInterface? name with
  | none => exact ProgramGraph.interface?_eq_none_of_searched last
  | some i =>
    rw [aidlInterface_cached loaded normal (stored.trans last)] at same
    exact computed_eq_ok_iff.1 same.symm

/-- Any two histories of questions after a bind lead to the same answer, and any
history to the one of a forced lookup, exactly if the two writers of the cache agree
on the name. -/
theorem aidlInterface_after_bind_iff (i : ProgramInstance) (g : ProgramGraph) (n : String) :
    ((∀ first second : List Question,
        (((i.bind g).after first).aidlInterface n false).1 =
          (((i.bind g).after second).aidlInterface n false).1) ↔
      ∀ name, normalizeClassName n = .ok name → g.AgreesOn name) ∧
    ((∀ history : List Question,
        (((i.bind g).after history).aidlInterface n false).1 =
          (((i.bind g).after history).aidlInterface n true).1) ↔
      ∀ name, normalizeClassName n = .ok name → g.AgreesOn name) := by
  cases normal : normalizeClassName n with
  | error why =>
    have malformed (history : List Question) (force : Bool) :
        (((i.bind g).after history).aidlInterface n force).1 = .error why := by
      obtain ⟨cache, _, loaded⟩ := program_bind_after i g history
      rw [aidlInterface_of_malformed loaded normal]
    simp [malformed]
  | ok name =>
    have answer (agree : g.AgreesOn name) (history : List Question) (force : Bool) :
        (((i.bind g).after history).aidlInterface n force).1 =
          ResolutionCache.computed g.allClasses name g.findClass? := by
      obtain ⟨cache, written, loaded⟩ := program_bind_after i g history
      exact aidlInterface_of_agreesOn loaded normal written agree force
    constructor
    · constructor
      · intro free other same
        cases same
        apply agreesOn_of_answer_after_search normal
        rw [free [.searchAidlClasses] []]
        exact aidlInterface_uncached rfl normal rfl
      · intro agree first second
        rw [answer (agree name rfl), answer (agree name rfl)]
    · constructor
      · intro unforced other same
        cases same
        apply agreesOn_of_answer_after_search normal
        obtain ⟨cache, _, loaded⟩ := program_bind_after i g [.searchAidlClasses]
        rw [unforced, aidlInterface_forced loaded normal]
      · intro agree history
        rw [answer (agree name rfl), answer (agree name rfl)]

/-! Two merged inputs may declare a class each under one name. A search then
changes the answer to a later lookup. -/

def twin (method : String) : ClassSymbol where
  fullName := "a.I"
  name := "I"
  methods := [{ name := method, returnType := "void", declaringClass := "a.I" }]
  innerClasses := [
    { fullName := "a.I.Default", name := "Default" },
    { fullName := "a.I.Stub", name := "Stub"
      innerClasses := [{ fullName := "a.I.Stub.Proxy", name := "Proxy" }] }]

def twins : ProgramInstance :=
  bind ⟨"twins", "merged", Snapshot.provider, none⟩ { classes := [twin "first", twin "second"] }

theorem answer_after_search_of_twins :
    ((twins.after []).aidlInterface "a.I" false).1 =
        .ok ⟨"a.I", ["a.I.first():void"], none⟩ ∧
      ((twins.after [.searchAidlClasses]).aidlInterface "a.I" false).1 =
        .ok ⟨"a.I", ["a.I.second():void"], none⟩ ∧
      ((twins.after [.searchAidlClasses]).aidlInterface "a.I" true).1 =
        .ok ⟨"a.I", ["a.I.first():void"], none⟩ :=
  ⟨rfl, rfl, rfl⟩

end ProgramInstance

end ClassAtlas
