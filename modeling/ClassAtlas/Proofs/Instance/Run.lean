import ClassAtlas.Instance.Query
import ClassAtlas.Proofs.Aidl.Cache

/-! Runs of a program instance. An instance is loaded, bound and unloaded, and
asked questions in between; a question has an answer and may leave more in the
interface cache. What one action can do to the loaded program is said once, in
`program_perform`, and properties of runs follow from it by induction. -/
namespace ClassAtlas

/-- A question about an instance. Classes and members are named in either dialect. -/
inductive Question where
  | info
  | manifest
  | allClasses
  | superclass (className : String)
  | interfaces (className : String)
  | classMethods (className : String)
  | classFields (className : String)
  | classCallers (className : String)
  | classSource (className : String)
  | methodSource (className method : String)
  | methodCallers (className method : String)
  | methodOverrides (className method : String)
  | fieldCallers (className field : String)
  | searchText (needle : String)
  | searchAidlClasses
  | aidlInterface (interfaceName : String) (force : Bool)
  | aidlMethods (interfaceName : String)
  | aidlImplementation (interfaceName : String)

inductive Answer where
  | summary (info : InstanceInfo)
  | text (answer : Except Failure String)
  | texts (answer : Except Failure (List String))
  | source (answer : Except Mishap String)
  | interface (answer : Except Failure AidlInterface)

/-- Something that is done to an instance. A load meets the world of its time. -/
inductive Action where
  | load (w : World)
  | loadFolder (w : World)
  | bind (graph : ProgramGraph)
  | unload
  | ask (q : Question)

namespace ProgramInstance

def ask (i : ProgramInstance) : Question → Answer × ProgramInstance
  | .info => (.summary i.info, i)
  | .manifest => (.text i.manifest, i)
  | .allClasses => (.texts i.allClasses, i)
  | .superclass c => (.text (i.superclass c), i)
  | .interfaces c => (.texts (i.interfaces c), i)
  | .classMethods c => (.texts (i.classMethods c), i)
  | .classFields c => (.texts (i.classFields c), i)
  | .classCallers c => (.texts (i.classCallers c), i)
  | .classSource c => (.source (i.classSource c), i)
  | .methodSource c m => (.source (i.methodSource c m), i)
  | .methodCallers c m => (.texts (i.methodCallers c m), i)
  | .methodOverrides c m => (.texts (i.methodOverrides c m), i)
  | .fieldCallers c f => (.texts (i.fieldCallers c f), i)
  | .searchText needle => (.texts (i.searchText needle), i)
  | .searchAidlClasses => (.texts i.searchAidlClasses.1, i.searchAidlClasses.2)
  | .aidlInterface n force => (.interface (i.aidlInterface n force).1, (i.aidlInterface n force).2)
  | .aidlMethods n => (.texts (i.aidlMethods n).1, (i.aidlMethods n).2)
  | .aidlImplementation n => (.text (i.aidlImplementation n).1, (i.aidlImplementation n).2)

def perform (i : ProgramInstance) : Action → ProgramInstance
  | .load w => (i.load w).2
  | .loadFolder w => (i.loadFolder w).2
  | .bind graph => i.bind graph
  | .unload => i.unload.2
  | .ask q => (i.ask q).2

def run (i : ProgramInstance) (actions : List Action) : ProgramInstance :=
  actions.foldl perform i

def after (i : ProgramInstance) (history : List Question) : ProgramInstance :=
  i.run (history.map Action.ask)

@[simp] theorem run_nil (i : ProgramInstance) : i.run [] = i := rfl

@[simp] theorem run_cons (i : ProgramInstance) (a : Action) (rest : List Action) :
    i.run (a :: rest) = (i.perform a).run rest := rfl

@[simp] theorem after_nil (i : ProgramInstance) : i.after [] = i := rfl

@[simp] theorem after_cons (i : ProgramInstance) (q : Question) (rest : List Question) :
    i.after (q :: rest) = (i.ask q).2.after rest := rfl

theorem run_induction {P : ProgramInstance → Prop}
    (step : ∀ i a, P i → P (i.perform a)) {i : ProgramInstance} (start : P i)
    (actions : List Action) : P (i.run actions) := by
  induction actions generalizing i with
  | nil => exact start
  | cons a rest ih => exact ih (step i a start)

/-! The interface cache is all that a question changes. -/

@[simp] theorem program_withCache (i : ProgramInstance) (cache : ResolutionCache) :
    (i.withCache cache).program = i.program.map fun p => { p with cache := cache } := rfl

theorem withCache_of_program {i : ProgramInstance} {p : LoadedProgram}
    (loaded : i.program = some p) : i.withCache p.cache = i := by
  unfold withCache
  rw [loaded]
  cases i
  simp_all

end ProgramInstance

def ProgramGraph.resolvedInterfaces (g : ProgramGraph) : List AidlInterface :=
  (g.allClasses.filterMap AidlInterface.detect?).map fun i => i.resolvedIn g.allClasses

/-- The interface that a program has under a name, by the first class so named. -/
def ProgramGraph.interface? (g : ProgramGraph) (name : String) : Option AidlInterface :=
  ((g.findClass? name).bind AidlInterface.detect?).map fun i => i.resolvedIn g.allClasses

/-- How the cache of a program can change with one question. A search stores the
interfaces of all classes, a lookup that of one named class. -/
inductive CacheStep (g : ProgramGraph) (cache : ResolutionCache) : ResolutionCache → Prop where
  | kept : CacheStep g cache cache
  | searched : CacheStep g cache (cache.insertAll g.resolvedInterfaces)
  | looked {name : String} {i : AidlInterface} (found : g.interface? name = some i) :
      CacheStep g cache (cache.insert i)

namespace ProgramInstance

theorem computed_eq_ok_iff {g : ProgramGraph} {name : String} {i : AidlInterface} :
    ResolutionCache.computed g.allClasses name g.findClass? = .ok i ↔
      g.interface? name = some i := by
  unfold ProgramGraph.interface?
  rw [ResolutionCache.computed_eq_ok_iff, Option.map_eq_some_iff]

theorem searchAidlClasses_of_program {i : ProgramInstance} {p : LoadedProgram}
    (loaded : i.program = some p) :
    i.searchAidlClasses =
      (.ok ((p.graph.allClasses.filterMap AidlInterface.detect?).map AidlInterface.interfaceName),
        i.withCache (p.cache.insertAll p.graph.resolvedInterfaces)) := by
  unfold searchAidlClasses ProgramGraph.resolvedInterfaces
  rw [loaded]
  simp only [AidlInterface.resolveAll_eq]

theorem aidlInterface_of_program {i : ProgramInstance} {p : LoadedProgram}
    (loaded : i.program = some p) {interfaceName name : String}
    (normal : normalizeClassName interfaceName = .ok name) (force : Bool) :
    i.aidlInterface interfaceName force =
      let found := p.cache.lookup p.graph.allClasses name force p.graph.findClass?
      (found.answer, i.withCache found.cache) := by
  unfold aidlInterface
  rw [loaded, normal]

theorem aidlInterface_of_malformed {i : ProgramInstance} {p : LoadedProgram}
    (loaded : i.program = some p) {interfaceName : String} {why : Failure}
    (malformed : normalizeClassName interfaceName = .error why) (force : Bool) :
    i.aidlInterface interfaceName force = (.error why, i) := by
  unfold aidlInterface
  rw [loaded, malformed]

theorem aidlInterface_of_not_loaded {i : ProgramInstance} (absent : i.program = none)
    (interfaceName : String) (force : Bool) :
    i.aidlInterface interfaceName force = (.error .notLoaded, i) := by
  unfold aidlInterface
  rw [absent]

theorem aidlInterface_cacheStep {i : ProgramInstance} {p : LoadedProgram}
    (loaded : i.program = some p) (interfaceName : String) (force : Bool) :
    ∃ cache, CacheStep p.graph p.cache cache ∧
      (i.aidlInterface interfaceName force).2 = i.withCache cache := by
  cases normal : normalizeClassName interfaceName with
  | error why =>
    refine ⟨p.cache, .kept, ?_⟩
    rw [aidlInterface_of_malformed loaded normal, withCache_of_program loaded]
  | ok name =>
    rw [aidlInterface_of_program loaded normal]
    refine ⟨_, ?_, rfl⟩
    rcases p.cache.cache_lookup_cases p.graph.allClasses name p.graph.findClass? force with
      same | ⟨found, computed, stored⟩
    · rw [same]; exact .kept
    · rw [stored]; exact .looked (computed_eq_ok_iff.1 computed)

theorem ask_of_not_loaded {i : ProgramInstance} (absent : i.program = none) (q : Question) :
    (i.ask q).2 = i := by
  cases q with
  | searchAidlClasses => simp [ask, searchAidlClasses, absent]
  | aidlInterface n force => simp [ask, aidlInterface_of_not_loaded absent]
  | aidlMethods n => simp [ask, aidlMethods, aidlInterface_of_not_loaded absent]
  | aidlImplementation n => simp [ask, aidlImplementation, aidlInterface_of_not_loaded absent]
  | _ => rfl

theorem ask_cacheStep {i : ProgramInstance} {p : LoadedProgram}
    (loaded : i.program = some p) (q : Question) :
    ∃ cache, CacheStep p.graph p.cache cache ∧ (i.ask q).2 = i.withCache cache := by
  cases q with
  | searchAidlClasses =>
    exact ⟨_, .searched, congrArg Prod.snd (searchAidlClasses_of_program loaded)⟩
  | aidlInterface n force => exact aidlInterface_cacheStep loaded n force
  | aidlMethods n => exact aidlInterface_cacheStep loaded n false
  | aidlImplementation n => exact aidlInterface_cacheStep loaded n false
  | _ => exact ⟨p.cache, .kept, (withCache_of_program loaded).symm⟩

/-- After an action nothing is loaded, or a program is with nothing in its cache,
or the same program is with one more step of its cache. -/
theorem program_perform (i : ProgramInstance) (a : Action) :
    (i.perform a).program = none ∨
      (∃ graph, (i.perform a).program = some ⟨graph, .empty⟩) ∨
      ∃ p cache, i.program = some p ∧ CacheStep p.graph p.cache cache ∧
        (i.perform a).program = some ⟨p.graph, cache⟩ := by
  have bindLoaded_cases (loaded : Except Failure ProgramGraph) :
      (i.bindLoaded loaded).2.program = none ∨
        ∃ graph, (i.bindLoaded loaded).2.program = some ⟨graph, .empty⟩ := by
    cases loaded with
    | error why => exact .inl rfl
    | ok graph => exact .inr ⟨graph, rfl⟩
  cases a with
  | load w => exact (bindLoaded_cases (i.readFile w)).imp_right .inl
  | loadFolder w => exact (bindLoaded_cases (i.readFolder w)).imp_right .inl
  | bind graph => exact .inr (.inl ⟨graph, rfl⟩)
  | unload => exact .inl rfl
  | ask q =>
    cases loaded : i.program with
    | none => exact .inl (by rw [perform, ask_of_not_loaded loaded, loaded])
    | some p =>
      obtain ⟨cache, step, same⟩ := ask_cacheStep loaded q
      refine .inr (.inr ⟨p, cache, rfl, step, ?_⟩)
      rw [perform, same, program_withCache, loaded]
      rfl

theorem id_perform (i : ProgramInstance) (a : Action) : (i.perform a).id = i.id := by
  have id_bindLoaded (loaded : Except Failure ProgramGraph) : (i.bindLoaded loaded).2.id = i.id := by
    cases loaded <;> rfl
  cases a with
  | load w => exact id_bindLoaded (i.readFile w)
  | loadFolder w => exact id_bindLoaded (i.readFolder w)
  | bind graph => rfl
  | unload => rfl
  | ask q =>
    cases loaded : i.program with
    | none => rw [perform, ask_of_not_loaded loaded]
    | some p =>
      obtain ⟨cache, _, same⟩ := ask_cacheStep loaded q
      rw [perform, same]
      rfl

end ProgramInstance

end ClassAtlas
