import ClassAtlas.Proofs.Instance.CacheSoundness
import ClassAtlas.Proofs.Instance.MemberRefusal
import Mathlib.Data.List.Induction

/-! An instance is loaded exactly if its last load came through and nothing was unloaded
since. A load that fails leaves nothing loaded, not even what was there before; questions
change nothing but the cache, and while nothing is loaded every question about the program
is refused, whatever it asks. -/
namespace ClassAtlas

/-- The failure that an answer reports. -/
def Answer.failure? : Answer → Option Failure
  | .text (.error why) => some why
  | .texts (.error why) => some why
  | .source (.error (.failure why)) => some why
  | .interface (.error why) => some why
  | _ => none

def Action.isQuestion : Action → Bool
  | .ask _ => true
  | _ => false

namespace ProgramInstance

/-- The program that is bound. -/
def graph? (i : ProgramInstance) : Option ProgramGraph :=
  i.program.map LoadedProgram.graph

/-- The program that an action supplies, if it is one that does. -/
def supplied? (i : ProgramInstance) : Action → Option ProgramGraph
  | .load w => (i.readFile w).toOption
  | .loadFolder w => (i.readFolder w).toOption
  | .bind graph => some graph
  | .unload | .ask _ => none

/-- What a load comes to: what was read is bound with nothing in its cache, or the reading
failed and nothing is bound. -/
structure Settles (read : Except Failure ProgramGraph)
    (outcome : Except Failure Unit × ProgramInstance) : Prop where
  isLoaded_iff : outcome.2.isLoaded ↔ outcome.1 = .ok ()
  ok_iff : outcome.1 = .ok () ↔ ∃ g, read = .ok g ∧ outcome.2.program = some ⟨g, .empty⟩
  error_iff : ∀ why, outcome.1 = .error why ↔ read = .error why ∧ outcome.2.program = none

/-- The order in which a question about a member is refused. -/
structure RefusesInOrder (i : ProgramInstance) (g : ProgramGraph) : Prop where
  methodCallers : ∀ c m why,
    i.methodCallers c m = .error why ↔ MemberKind.method.Refuses g c m why
  methodOverrides : ∀ c m why,
    i.methodOverrides c m = .error why ↔ MemberKind.method.Refuses g c m why
  fieldCallers : ∀ c f why,
    i.fieldCallers c f = .error why ↔ MemberKind.field.Refuses g c f why
  /-- A method that is found may still be without a source. -/
  methodSource : ∀ c m mishap, i.methodSource c m = .error mishap ↔
    (∃ why, MemberKind.method.Refuses g c m why ∧ mishap = .failure why) ∨
      ∃ found, MemberKind.method.Finds g c m found ∧
        (i.provider.methodSource found = .error mishap ∨
          i.provider.methodSource found = .ok none ∧
            mishap = .failure (.notFound (.methodSource found.signature)))

/-- What is promised of an instance in any state. -/
structure Lifecycle (i : ProgramInstance) : Prop where
  load : ∀ w, Settles (i.readFile w) (i.load w)
  loadFolder : ∀ w, Settles (i.readFolder w) (i.loadFolder w)
  readFile : ∀ w g, i.readFile w = .ok g ↔
    (∃ bytes, w.entry i.path = .ok (.file bytes)) ∧ i.provider.load w [i.path] = .ok g
  readFolder : ∀ w g, i.readFolder w = .ok g ↔
    ∃ names, w.entry i.path = .ok (.folder (.ok names)) ∧ i.inputsAmong w names ≠ [] ∧
      i.provider.load w (i.inputsAmong w names) = .ok g
  bind : ∀ g, (i.bind g).program = some ⟨g, .empty⟩
  unload : i.unload.1 = i.isLoaded ∧ i.unload.2.program = none
  ask : ∀ q, (i.ask q).2.isLoaded = i.isLoaded ∧ (i.ask q).2.graph? = i.graph?
  notLoaded : i.isLoaded = false → i.loaded = .error .notLoaded ∧
    ∀ q, q ≠ .info → (i.ask q).1.failure? = some .notLoaded
  refusesInOrder : ∀ g, i.graph? = some g → i.RefusesInOrder g

section Load
variable (i : ProgramInstance) (w : World)

theorem settles_bindLoaded (read : Except Failure ProgramGraph) :
    Settles read (i.bindLoaded read) := by
  cases read with
  | ok g => refine ⟨?_, ?_, fun why => ?_⟩ <;> simp [bindLoaded, bind, isLoaded]
  | error cause => refine ⟨?_, ?_, fun why => ?_⟩ <;> simp [bindLoaded, isLoaded]

theorem readFile_eq_ok_iff {g : ProgramGraph} :
    i.readFile w = .ok g ↔
      (∃ bytes, w.entry i.path = .ok (.file bytes)) ∧ i.provider.load w [i.path] = .ok g := by
  unfold readFile
  rcases w.entry i.path with obstacle | bytes | names <;> simp

theorem readFolder_eq_ok_iff {g : ProgramGraph} :
    i.readFolder w = .ok g ↔
      ∃ names, w.entry i.path = .ok (.folder (.ok names)) ∧ i.inputsAmong w names ≠ [] ∧
        i.provider.load w (i.inputsAmong w names) = .ok g := by
  unfold readFolder
  rcases w.entry i.path with obstacle | bytes | (why | names)
  · simp
  · simp
  · simp
  · cases listed : i.inputsAmong w names <;> simp [listed]

end Load

theorem graph?_ask (i : ProgramInstance) (q : Question) : (i.ask q).2.graph? = i.graph? := by
  cases loaded : i.program with
  | none => rw [ask_of_not_loaded loaded]
  | some p =>
    obtain ⟨cache, _, same⟩ := ask_cacheStep loaded q
    rw [same, graph?, program_withCache, graph?, loaded]
    rfl

theorem isSome_graph? (i : ProgramInstance) : i.graph?.isSome = i.isLoaded :=
  Option.isSome_map

section NotLoaded
variable {i : ProgramInstance} (absent : i.program = none)
include absent

theorem loaded_of_not_loaded : i.loaded = .error .notLoaded := by
  rw [loaded, absent]

theorem findClass_of_not_loaded (className : String) :
    i.findClass className = .error .notLoaded := by
  rw [findClass, loaded_of_not_loaded absent]
  rfl

theorem lookup_of_not_loaded {α : Type} (kind : MemberKind α) (className member : String) :
    kind.lookup i className member = .error .notLoaded := by
  rw [MemberKind.lookup, findMember, findClass_of_not_loaded absent]
  rfl

theorem failure?_ask_of_not_loaded {q : Question} (about : q ≠ .info) :
    (i.ask q).1.failure? = some .notLoaded := by
  have noClass := findClass_of_not_loaded absent
  have noMethod := lookup_of_not_loaded absent MemberKind.method
  have noField := lookup_of_not_loaded absent MemberKind.field
  have noInterface := aidlInterface_of_not_loaded absent
  cases q with
  | info => exact absurd rfl about
  | manifest => rw [ask, manifest, loaded_of_not_loaded absent]; rfl
  | allClasses => rw [ask, allClasses, loaded_of_not_loaded absent]; rfl
  | superclass c => rw [ask, superclass, noClass]; rfl
  | interfaces c => rw [ask, interfaces, noClass]; rfl
  | classMethods c => rw [ask, classMethods, noClass]; rfl
  | classFields c => rw [ask, classFields, noClass]; rfl
  | classCallers c => rw [ask, classCallers, noClass]; rfl
  | classSource c => rw [ask, classSource, noClass]; rfl
  | methodSource c m => rw [ask, methodSource, findMethod_eq_lookup, noMethod]; rfl
  | methodCallers c m => rw [ask, methodCallers, findMethod_eq_lookup, noMethod]; rfl
  | methodOverrides c m => rw [ask, methodOverrides, findMethod_eq_lookup, noMethod]; rfl
  | fieldCallers c f => rw [ask, fieldCallers, findField_eq_lookup, noField]; rfl
  | searchText needle => rw [ask, searchText, loaded_of_not_loaded absent]; rfl
  | searchAidlClasses => rw [ask, searchAidlClasses, absent]; rfl
  | aidlInterface n force => rw [ask, noInterface]; rfl
  | aidlMethods n => rw [ask, aidlMethods, noInterface]; rfl
  | aidlImplementation n => rw [ask, aidlImplementation, noInterface]; rfl

end NotLoaded

/-- A part of a found member is refused as the member is. -/
theorem map_eq_error_iff {α β : Type} {found : Except Failure α} {part : α → β} {why : Failure} :
    (do return part (← found)) = .error why ↔ found = .error why := by
  cases found <;> simp [Bind.bind, Except.bind, pure, Except.pure]

theorem refusesInOrder_of_program {i : ProgramInstance} {p : LoadedProgram}
    (loaded : i.program = some p) : i.RefusesInOrder p.graph where
  methodCallers c m why := by
    rw [methodCallers, map_eq_error_iff, findMethod_eq_lookup, lookup_eq_error_iff loaded]
  methodOverrides c m why := by
    rw [methodOverrides, map_eq_error_iff, findMethod_eq_lookup, lookup_eq_error_iff loaded]
  fieldCallers c f why := by
    rw [fieldCallers, map_eq_error_iff, findField_eq_lookup, lookup_eq_error_iff loaded]
  methodSource c m mishap := by
    simp only [← lookup_eq_error_iff loaded, ← lookup_eq_ok_iff loaded, ← findMethod_eq_lookup]
    unfold methodSource
    cases found : i.findMethod c m with
    | error why => simp [eq_comm]
    | ok method =>
      rcases source : i.provider.methodSource method with failed | (_ | text) <;>
        simp [source, eq_comm]

theorem lifecycle (i : ProgramInstance) : i.Lifecycle where
  load w := i.settles_bindLoaded (i.readFile w)
  loadFolder w := i.settles_bindLoaded (i.readFolder w)
  readFile w _ := i.readFile_eq_ok_iff w
  readFolder w _ := i.readFolder_eq_ok_iff w
  bind _ := rfl
  unload := ⟨rfl, rfl⟩
  ask q := by
    refine ⟨?_, i.graph?_ask q⟩
    rw [← isSome_graph?, i.graph?_ask q, isSome_graph?]
  notLoaded empty := by
    have absent : i.program = none := by simpa [isLoaded] using empty
    exact ⟨loaded_of_not_loaded absent, fun _ => failure?_ask_of_not_loaded absent⟩
  refusesInOrder g bound := by
    obtain ⟨p, loaded, rfl⟩ := Option.map_eq_some_iff.1 bound
    exact refusesInOrder_of_program loaded

/-! What is bound after a run. -/

theorem perform_eq (i : ProgramInstance) (a : Action) :
    ∃ program, i.perform a = { i with program := program } := by
  have bindLoaded_eq (read : Except Failure ProgramGraph) :
      ∃ program, (i.bindLoaded read).2 = { i with program := program } := by
    cases read with
    | ok g => exact ⟨some ⟨g, .empty⟩, rfl⟩
    | error why => exact ⟨none, rfl⟩
  cases a with
  | load w => exact bindLoaded_eq (i.readFile w)
  | loadFolder w => exact bindLoaded_eq (i.readFolder w)
  | bind graph => exact ⟨some ⟨graph, .empty⟩, rfl⟩
  | unload => exact ⟨none, rfl⟩
  | ask q =>
    cases loaded : i.program with
    | none => exact ⟨i.program, ask_of_not_loaded loaded q⟩
    | some p =>
      obtain ⟨cache, _, same⟩ := ask_cacheStep loaded q
      exact ⟨_, same⟩

theorem supplied?_perform (i : ProgramInstance) (a : Action) :
    (i.perform a).supplied? = i.supplied? := by
  obtain ⟨program, same⟩ := i.perform_eq a
  rw [same]
  funext b
  cases b <;> rfl

theorem supplied?_run (i : ProgramInstance) (actions : List Action) :
    (i.run actions).supplied? = i.supplied? :=
  run_induction (P := fun j => j.supplied? = i.supplied?)
    (fun j a same => (j.supplied?_perform a).trans same) rfl actions

theorem graph?_perform (i : ProgramInstance) (a : Action) :
    (i.perform a).graph? = if a.isQuestion then i.graph? else i.supplied? a := by
  have graph?_bindLoaded (read : Except Failure ProgramGraph) :
      (i.bindLoaded read).2.graph? = read.toOption := by
    cases read <;> rfl
  cases a with
  | load w => exact graph?_bindLoaded (i.readFile w)
  | loadFolder w => exact graph?_bindLoaded (i.readFolder w)
  | bind graph => rfl
  | unload => rfl
  | ask q => exact i.graph?_ask q

/-- The last action that is no question decides; whatever was bound before it is gone. -/
theorem graph?_run (i : ProgramInstance) (actions : List Action) :
    (i.run actions).graph? =
      match actions.reverse.find? fun a => !a.isQuestion with
      | some last => i.supplied? last
      | none => i.graph? := by
  induction actions using List.reverseRecOn with
  | nil => rfl
  | append_singleton before a ih =>
    have run_append : i.run (before ++ [a]) = (i.run before).perform a := List.foldl_append
    rw [run_append, graph?_perform, supplied?_run, ih, List.reverse_append]
    cases question : a.isQuestion <;> simp [question]

/-- Whatever was done to an instance since it was new, it keeps the rules of its lifecycle,
and what is bound is what the last action that is no question supplied. -/
theorem lifecycle_run (id path : String) (provider : Provider) (actions : List Action) :
    ((ofPath id path provider).run actions).Lifecycle ∧
      ((ofPath id path provider).run actions).graph? =
        (actions.reverse.find? fun a => !a.isQuestion).bind
          (ofPath id path provider).supplied? := by
  refine ⟨lifecycle _, ?_⟩
  rw [graph?_run]
  cases actions.reverse.find? fun a => !a.isQuestion <;> rfl

end ProgramInstance

end ClassAtlas
