import ClassAtlas.Instance.Query
import ClassAtlas.Proofs.Graph.Naming
import ClassAtlas.Provider.Snapshot

/-! Which classes their binary descriptors lead to, in a program whose classes are
named after their place. -/
namespace ClassAtlas.ProgramInstance

/-- Every question about a class is answered alike under two names. -/
structure AnswersAlike (i : ProgramInstance) (first second : String) : Prop where
  superclass : i.superclass first = i.superclass second
  interfaces : i.interfaces first = i.interfaces second
  classMethods : i.classMethods first = i.classMethods second
  classFields : i.classFields first = i.classFields second
  classCallers : i.classCallers first = i.classCallers second
  classSource : i.classSource first = i.classSource second

theorem answersAlike_of_findClass_eq {i : ProgramInstance} {first second : String}
    (same : i.findClass first = i.findClass second) : i.AnswersAlike first second where
  superclass := by rw [superclass, superclass, same]
  interfaces := by rw [interfaces, interfaces, same]
  classMethods := by rw [classMethods, classMethods, same]
  classFields := by rw [classFields, classFields, same]
  classCallers := by rw [classCallers, classCallers, same]
  classSource := by rw [classSource, classSource, same]

section Lookup
variable {i : ProgramInstance} {p : LoadedProgram} (loaded : i.program = some p)
include loaded

theorem findClass_eq_ok_iff {className : String} {c : ClassSymbol} :
    i.findClass className = .ok c ↔
      ∃ name, normalizeClassName className = .ok name ∧ p.graph.findClass? name = some c := by
  unfold findClass ProgramInstance.loaded
  rw [loaded]
  cases normal : normalizeClassName className with
  | error why => simp [Bind.bind, Except.bind]
  | ok name =>
    cases found : p.graph.findClass? name <;>
      simp [Bind.bind, Except.bind, found, pure, Except.pure, throw, throwThe,
        MonadExceptOf.throw]

theorem findClass_eq_ok_iff_of_mem (convention : p.graph.FollowsConvention) {c : ClassSymbol}
    (member : c ∈ p.graph.allClasses) {className : String} :
    i.findClass className = .ok c ↔ normalizeClassName className = .ok c.fullName := by
  rw [findClass_eq_ok_iff loaded]
  constructor
  · rintro ⟨name, normal, found⟩
    have named : c.fullName = name := by simpa using List.find?_some found
    rw [named, normal]
  · intro normal
    exact ⟨c.fullName, normal, ProgramGraph.findClass?_of_mem convention.distinct member⟩

/-- A descriptor leads to its class exactly if this is a top-level class or an anonymous
one right inside a top-level class, and then it can stand for the full name. -/
theorem findClass_classDescriptor_iff (convention : p.graph.FollowsConvention)
    {top c : ClassSymbol} {steps : List String} (nested : p.graph.Nested top steps c) :
    (i.findClass (classDescriptor top.fullName steps) = .ok c ↔ IsAddressed steps) ∧
      (IsAddressed steps →
        i.AnswersAlike (classDescriptor top.fullName steps) c.fullName) := by
  have named := convention.top top nested.top_mem
  have reached : i.findClass (classDescriptor top.fullName steps) = .ok c ↔
      IsAddressed steps := by
    rw [findClass_eq_ok_iff_of_mem loaded convention nested.mem_allClasses,
      nested.fullName_eq convention, normalizeClassName_classDescriptor_iff named]
  refine ⟨reached, fun addressed => answersAlike_of_findClass_eq ?_⟩
  have byFullName : i.findClass c.fullName = .ok c := by
    rw [findClass_eq_ok_iff_of_mem loaded convention nested.mem_allClasses,
      nested.fullName_eq convention]
    exact normalizeClassName_qualifiedName named addressed
  rw [reached.2 addressed, byFullName]

end Lookup

/-! An interface with a named and an anonymous class right inside. -/

def stub : ClassSymbol where
  fullName := "com.example.IFoo.Stub"
  name := "Stub"
  superclass := some "android.os.Binder"

def anonymous : ClassSymbol where
  fullName := "com.example.IFoo.AnonymousClass1"
  name := "AnonymousClass1"

def service : ClassSymbol where
  fullName := "com.example.IFoo"
  name := "IFoo"
  innerClasses := [stub, anonymous]

def serviceGraph : ProgramGraph where
  classes := [service]

def serviceInstance : ProgramInstance :=
  bind ⟨"service", "model.json", Snapshot.provider, none⟩ serviceGraph

theorem allClasses_serviceGraph : serviceGraph.allClasses = [service, stub, anonymous] := rfl

theorem followsConvention_serviceGraph : serviceGraph.FollowsConvention where
  top := by
    intro c member
    cases List.mem_singleton.1 member
    exact ⟨by decide, by decide, by decide⟩
  inner := by
    rw [allClasses_serviceGraph]
    simp [service, stub, anonymous]
  distinct := by
    rw [allClasses_serviceGraph]
    decide

theorem nested_of_inner_service {c : ClassSymbol} (inner : c ∈ service.innerClasses) :
    serviceGraph.Nested service [c.name] c :=
  .inner (.top (List.mem_singleton.2 rfl)) inner

theorem findClass_classDescriptor_anonymous :
    serviceInstance.findClass (classDescriptor "com.example.IFoo" ["AnonymousClass1"]) =
        .ok anonymous ∧
      serviceInstance.AnswersAlike (classDescriptor "com.example.IFoo" ["AnonymousClass1"])
        "com.example.IFoo.AnonymousClass1" := by
  have inner : anonymous ∈ service.innerClasses := .tail _ (.head _)
  have found := findClass_classDescriptor_iff (i := serviceInstance) rfl
    followsConvention_serviceGraph (nested_of_inner_service inner)
  have addressed : IsAddressed ["AnonymousClass1"] := rfl
  exact ⟨found.1.2 addressed, found.2 addressed⟩

theorem superclass_of_stub :
    serviceGraph.FollowsConvention ∧ serviceGraph.Nested service ["Stub"] stub ∧
      classDescriptor service.fullName ["Stub"] = "Lcom/example/IFoo$Stub;" ∧
      serviceInstance.superclass "Lcom/example/IFoo$Stub;" =
        .error (.notFound (.type "com.example.IFoo$Stub")) ∧
      serviceInstance.superclass "com.example.IFoo.Stub" = .ok "android.os.Binder" :=
  ⟨followsConvention_serviceGraph, nested_of_inner_service (.head _), rfl, rfl, rfl⟩

end ClassAtlas.ProgramInstance
