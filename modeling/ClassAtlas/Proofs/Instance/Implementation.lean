import ClassAtlas.Proofs.Graph.Naming
import ClassAtlas.Proofs.Instance.CacheTransparency
import ClassAtlas.Proofs.Reference.Rendering
import Mathlib.Data.List.Nodup

/-! Which interfaces their implementations are found for. A superclass that is nested is
written with `$` behind every class around it, a full name with dots. The stub that is
looked for is a full name with `$Stub` behind it, so the two agree only where nothing but
the stub is nested. -/
namespace ClassAtlas

def superclassStep (simple : String) : List Char := '$' :: simple.toList

/-- How a class names its superclass, by the top-level class and the simple names on the
way down. -/
def superclassReference (top : String) (steps : List String) : String :=
  String.ofList (top.toList ++ steps.flatMap superclassStep)

theorem superclassReference_stub (top : String) (steps : List String) :
    superclassReference top (steps ++ ["Stub"]) = superclassReference top steps ++ "$Stub" := by
  rw [← String.toList_inj]
  simp [superclassReference, superclassStep]

theorem superclassReference_eq_qualifiedName_iff {top : String} {steps : List String} :
    superclassReference top steps = qualifiedName top steps ↔ steps = [] := by
  constructor
  · intro same
    cases steps with
    | nil => rfl
    | cons simple rest =>
      have tails := List.append_cancel_left (String.ofList_inj.1 same)
      simp [superclassStep, sourceStep] at tails
  · rintro rfl
    rfl

def undollared (name : List Char) : List Char :=
  name.map fun c => if c = '$' then '.' else c

theorem isBinary_undollared (name : List Char) : isBinary (undollared name) = isBinary name := by
  -- the characters that make a name binary are kept, and no other becomes one of them
  have kept (c mark : Char) (other : mark ≠ '$' ∧ mark ≠ '.') :
      (if c = '$' then '.' else c) = mark ↔ c = mark := by
    split
    · next dollar => simp [dollar, Ne.symm other.1, Ne.symm other.2]
    · rfl
  have slash : (undollared name).contains '/' = name.contains '/' := by
    rw [Bool.eq_iff_iff]
    simp [undollared, kept _ '/' (by decide)]
  have first (mark : Char) (other : mark ≠ '$' ∧ mark ≠ '.') :
      ((undollared name).head? == some mark) = (name.head? == some mark) := by
    rw [Bool.eq_iff_iff]
    simp [undollared, kept _ mark other]
  have last : ((undollared name).getLast? == some ';') = (name.getLast? == some ';') := by
    rw [Bool.eq_iff_iff]
    simp [undollared, kept _ ';' (by decide)]
  rw [isBinary, isBinary, slash, first 'L' (by decide), first '[' (by decide), last]

theorem undollared_superclassReference (top : String) (steps : List String) :
    undollared (superclassReference top steps).toList =
      undollared (qualifiedName top steps).toList := by
  rw [superclassReference, qualifiedName, String.toList_ofList, String.toList_ofList]
  unfold undollared
  rw [List.map_append, List.map_append, List.map_flatMap, List.map_flatMap]
  rfl

/-- Both ways to write a class are in one dialect. -/
theorem classify_superclassReference (top : String) (steps : List String) :
    classify (superclassReference top steps) = classify (qualifiedName top steps) := by
  have same := undollared_superclassReference top steps
  have binary := congrArg isBinary same
  rw [isBinary_undollared, isBinary_undollared] at binary
  have empty : (superclassReference top steps).toList.isEmpty =
      (qualifiedName top steps).toList.isEmpty := by
    simpa [undollared] using congrArg List.isEmpty same
  rw [classify, classify, binary, empty]

/-- A full name never stands for another way to write the class. -/
theorem normalizeClassName_eq_superclassReference_iff {top : String} {steps : List String} :
    normalizeClassName (qualifiedName top steps) = .ok (superclassReference top steps) ↔
      steps = [] ∧ classify (qualifiedName top steps) = .ok .source := by
  rw [normalizeClassName]
  cases classified : classify (qualifiedName top steps) with
  | error why => simp [inSource, classified, Bind.bind, Except.bind]
  | ok dialect =>
    cases dialect with
    | binary =>
      rw [inSource_of_binary classified]
      constructor
      · intro converted
        have source := classify_of_typeNameToSource converted
        rw [classify_superclassReference, classified] at source
        cases source
      · rintro ⟨_, source⟩
        cases source
    | source =>
      rw [inSource_of_source classified, Except.ok.injEq, eq_comm,
        superclassReference_eq_qualifiedName_iff]
      simp

namespace ProgramInstance

theorem aidlImplementation_eq_ok_iff {i : ProgramInstance} {n implementation : String} :
    (i.aidlImplementation n).1 = .ok implementation ↔
      ∃ found, (i.aidlInterface n false).1 = .ok found ∧
        found.implementation = some implementation := by
  unfold aidlImplementation
  rcases i.aidlInterface n false with ⟨answer, next⟩
  cases answer with
  | error why => simp [Except.bind]
  | ok found => cases implemented : found.implementation <;> simp [Except.bind, implemented]

theorem aidlImplementation_of_unimplemented {i : ProgramInstance} {n : String}
    {found : AidlInterface} (answered : (i.aidlInterface n false).1 = .ok found)
    (unimplemented : found.implementation = none) :
    (i.aidlImplementation n).1 = .error (.notFound (.implementation found.interfaceName)) := by
  unfold aidlImplementation
  rcases asked : i.aidlInterface n false with ⟨answer, next⟩
  rw [asked] at answered
  cases answered
  simp [Except.bind, unimplemented]

section Distinct
variable {g : ProgramGraph} (distinct : (g.allClasses.map ClassSymbol.fullName).Nodup)
include distinct

theorem interface?_of_mem {c : ClassSymbol} (member : c ∈ g.allClasses)
    (shape : c.HasAidlShape) :
    g.interface? c.fullName = some (c.asInterface.resolvedIn g.allClasses) := by
  rw [ProgramGraph.interface?, ProgramGraph.findClass?_of_mem distinct member, Option.bind_some,
    AidlInterface.detect?_eq_some_iff.2 ⟨shape, rfl⟩]
  rfl

/-- Whatever was asked before, the answer is looked up in the classes. -/
theorem aidlInterface_after_bind_eq_ok_iff (i : ProgramInstance) (history : List Question)
    {n : String} {found : AidlInterface} :
    (((i.bind g).after history).aidlInterface n false).1 = .ok found ↔
      ∃ name, normalizeClassName n = .ok name ∧ g.interface? name = some found := by
  obtain ⟨cache, written, loaded⟩ := program_bind_after i g history
  cases normal : normalizeClassName n with
  | error why =>
    rw [aidlInterface_of_malformed loaded normal]
    simp
  | ok name =>
    rw [aidlInterface_of_agreesOn loaded normal written
      (ProgramGraph.agreesOn_of_nodup distinct name) false, computed_eq_ok_iff]
    simp

theorem aidlImplementation_after_bind_eq_ok_iff (i : ProgramInstance) (history : List Question)
    {n implementation : String} :
    (((i.bind g).after history).aidlImplementation n).1 = .ok implementation ↔
      ∃ c ∈ g.allClasses, c.HasAidlShape ∧ normalizeClassName n = .ok c.fullName ∧
        ∃ d, AidlInterface.IsFirstExtender g.allClasses (c.fullName ++ "$Stub") d ∧
          d.fullName = implementation := by
  rw [aidlImplementation_eq_ok_iff]
  simp only [aidlInterface_after_bind_eq_ok_iff distinct,
    ← AidlInterface.firstExtender?_eq_some_iff]
  constructor
  · rintro ⟨found, ⟨name, normal, present⟩, implemented⟩
    obtain ⟨unresolved, bound, rfl⟩ := Option.map_eq_some_iff.1 present
    obtain ⟨c, located, detected⟩ := Option.bind_eq_some_iff.1 bound
    obtain ⟨shape, rfl⟩ := AidlInterface.detect?_eq_some_iff.1 detected
    have named : c.fullName = name := by simpa using List.find?_some located
    exact ⟨c, List.mem_of_find?_eq_some located, shape, named ▸ normal, implemented⟩
  · rintro ⟨c, member, shape, normal, implemented⟩
    exact ⟨_, ⟨c.fullName, normal, interface?_of_mem distinct member shape⟩, implemented⟩

end Distinct

/-- The first class that extends the stub of an interface is found exactly if the interface
is a top-level class. Inside another class, it is missed, and as a rule nothing is found. -/
theorem aidlImplementation_iff_topLevel (i : ProgramInstance) {g : ProgramGraph}
    (named : g.NamesByPlace) {top c d : ClassSymbol} {steps : List String}
    (nested : g.Nested top steps c) (shape : c.HasAidlShape)
    (extender : AidlInterface.IsFirstExtender g.allClasses
      (superclassReference top.fullName (steps ++ ["Stub"])) d) (history : List Question) :
    ((((i.bind g).after history).aidlImplementation c.fullName).1 = .ok d.fullName ↔
      steps = [] ∧ classify c.fullName = .ok .source) ∧
    (classify c.fullName = .ok .source →
      (∀ e ∈ g.allClasses, e.superclass ≠ some (c.fullName ++ "$Stub")) →
        (((i.bind g).after history).aidlImplementation c.fullName).1 =
          .error (.notFound (.implementation c.fullName))) := by
  have fullName := nested.fullName_of_namesByPlace named
  rw [superclassReference_stub] at extender
  constructor
  · rw [aidlImplementation_after_bind_eq_ok_iff named.distinct]
    constructor
    · rintro ⟨e, _, _, normal, other, first, sameName⟩
      -- names are distinct, so it is the class that extends the stub of the interface
      cases List.inj_on_of_nodup_map named.distinct first.mem extender.mem sameName
      have sameStub := Option.some.inj (first.declared.symm.trans extender.declared)
      rw [(String.append_left_inj _).1 sameStub] at normal
      rw [fullName] at normal ⊢
      exact normalizeClassName_eq_superclassReference_iff.1 normal
    · rintro ⟨topLevel, source⟩
      have sameName : superclassReference top.fullName steps = c.fullName := by
        rw [fullName, superclassReference_eq_qualifiedName_iff.2 topLevel]
      rw [sameName] at extender
      exact ⟨c, nested.mem_allClasses, shape, inSource_of_source source, d, extender, rfl⟩
  · intro source unextended
    have answered := (aidlInterface_after_bind_eq_ok_iff named.distinct i history).2
      ⟨c.fullName, inSource_of_source source,
        interface?_of_mem named.distinct nested.mem_allClasses shape⟩
    exact aidlImplementation_of_unimplemented answered
      (AidlInterface.firstExtender?_eq_none_iff.2 unextended)

/-! An interface at the top and one inside a class, and a service that extends the stub of
each. Only the first service is found. -/

def serviceInterface (fullName : String) : ClassSymbol where
  fullName := fullName
  name := "IFoo"
  innerClasses := [
    { fullName := fullName ++ ".Default", name := "Default" },
    { fullName := fullName ++ ".Stub", name := "Stub"
      innerClasses := [{ fullName := fullName ++ ".Stub.Proxy", name := "Proxy" }] }]

def topService : ClassSymbol where
  fullName := "a.TopService"
  name := "TopService"
  superclass := some "a.IFoo$Stub"

def innerService : ClassSymbol where
  fullName := "a.InnerService"
  name := "InnerService"
  superclass := some "a.Outer$IFoo$Stub"

def enclosing : ClassSymbol where
  fullName := "a.Outer"
  name := "Outer"
  innerClasses := [serviceInterface "a.Outer.IFoo"]

def twoServicesGraph : ProgramGraph where
  classes := [serviceInterface "a.IFoo", enclosing, topService, innerService]

def unloaded : ProgramInstance := ⟨"two", "model.json", Snapshot.provider, none⟩

def twoServices : ProgramInstance := unloaded.bind twoServicesGraph

theorem namesByPlace_twoServicesGraph : twoServicesGraph.NamesByPlace where
  inner := by decide
  distinct := by decide

theorem nested_serviceInterface :
    twoServicesGraph.Nested (serviceInterface "a.IFoo") [] (serviceInterface "a.IFoo") ∧
      twoServicesGraph.Nested enclosing ["IFoo"] (serviceInterface "a.Outer.IFoo") := by
  have inside : twoServicesGraph.Nested enclosing [(serviceInterface "a.Outer.IFoo").name]
      (serviceInterface "a.Outer.IFoo") :=
    .inner (.top (.tail _ (.head _))) (.head _)
  exact ⟨.top (.head _), inside⟩

theorem isFirstExtender_topService : AidlInterface.IsFirstExtender twoServicesGraph.allClasses
    (superclassReference "a.IFoo" ["Stub"]) topService :=
  ⟨rfl, twoServicesGraph.allClasses.take 9, [innerService], rfl, by decide⟩

theorem isFirstExtender_innerService : AidlInterface.IsFirstExtender twoServicesGraph.allClasses
    (superclassReference "a.Outer" ["IFoo", "Stub"]) innerService :=
  ⟨rfl, twoServicesGraph.allClasses.take 10, [], rfl, by decide⟩

theorem aidlImplementation_after_search_of_twoServices :
    ((twoServices.after [.searchAidlClasses]).aidlImplementation "a.IFoo").1 =
        .ok "a.TopService" ∧
      ((twoServices.after [.searchAidlClasses]).aidlImplementation "a.Outer.IFoo").1 =
        .error (.notFound (.implementation "a.Outer.IFoo")) := by
  obtain ⟨atTop, inside⟩ := nested_serviceInterface
  have found := aidlImplementation_iff_topLevel unloaded namesByPlace_twoServicesGraph atTop
    (by decide) isFirstExtender_topService [.searchAidlClasses]
  have missed := aidlImplementation_iff_topLevel unloaded namesByPlace_twoServicesGraph inside
    (by decide) isFirstExtender_innerService [.searchAidlClasses]
  exact ⟨found.1.2 ⟨rfl, rfl⟩, missed.2 rfl (by decide)⟩

theorem aidlImplementation_innerService :
    twoServicesGraph.NamesByPlace ∧
      twoServicesGraph.Nested enclosing ["IFoo"] (serviceInterface "a.Outer.IFoo") ∧
      (serviceInterface "a.Outer.IFoo").HasAidlShape ∧
      superclassReference "a.Outer" ["IFoo", "Stub"] = "a.Outer$IFoo$Stub" ∧
      AidlInterface.IsFirstExtender twoServicesGraph.allClasses
        (superclassReference "a.Outer" ["IFoo", "Stub"]) innerService ∧
      (twoServices.aidlImplementation "a.Outer.IFoo").1 =
        .error (.notFound (.implementation "a.Outer.IFoo")) :=
  ⟨namesByPlace_twoServicesGraph, nested_serviceInterface.2, by decide, rfl,
    isFirstExtender_innerService, rfl⟩

end ProgramInstance

end ClassAtlas
