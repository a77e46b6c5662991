import ClassAtlas.Proofs.Aidl.Shape
import Mathlib.Logic.Relation

/-! What the recognition of an AIDL interface depends on. Beside the name and the methods of
the class these are two facts about its nested classes: whether a `Default` is among them, and
whether the first `Stub` holds a `Proxy`. So nested classes of other names may be put in, taken
out and moved at any depth, and those that are left may change places as long as the stubs
keep their order. -/
namespace ClassAtlas

/-- The names that count among the classes nested at a depth below an interface. -/
def markersAt : Nat → List String
  | 0 => ["Default", "Stub"]
  | 1 => ["Proxy"]
  | _ => []

namespace ClassSymbol

def hasProxy (c : ClassSymbol) : Bool :=
  c.innerClasses.any fun inner => inner.name = "Proxy"

/-- The second class is the first with one more class nested in it, at any depth and at any
place, under a name that does not count there. -/
inductive Adds : Nat → ClassSymbol → ClassSymbol → Prop where
  | direct {depth : Nat} {c other : ClassSymbol} {before after : List ClassSymbol}
      (plain : other.name ∉ markersAt depth) (inner : c.innerClasses = before ++ after) :
      Adds depth c { c with innerClasses := before ++ other :: after }
  | within {depth : Nat} {c old new : ClassSymbol} {before after : List ClassSymbol}
      (inner : c.innerClasses = before ++ old :: after) (deeper : Adds (depth + 1) old new) :
      Adds depth c { c with innerClasses := before ++ new :: after }

/-- Any number of nested classes that do not count are put in or taken out. To move one is to
take it out and to put it in elsewhere. -/
def Reshaped : ClassSymbol → ClassSymbol → Prop := Relation.EqvGen (Adds 0)

/-- The same interface, as far as the detector can see. -/
structure SameMarkers (c d : ClassSymbol) : Prop where
  interface : c.asInterface = d.asInterface
  default : (c.innerClasses.any fun inner => inner.name = "Default") =
    d.innerClasses.any fun inner => inner.name = "Default"
  stub : (c.innerClasses.find? fun inner => inner.name = "Stub").map hasProxy =
    (d.innerClasses.find? fun inner => inner.name = "Stub").map hasProxy

namespace SameMarkers
variable {c d : ClassSymbol}

theorem symm (same : SameMarkers c d) : SameMarkers d c :=
  ⟨same.interface.symm, same.default.symm, same.stub.symm⟩

theorem hasAidlShape (same : SameMarkers c d) (shape : c.HasAidlShape) : d.HasAidlShape := by
  obtain ⟨hasDefault, stub, first, proxy⟩ := shape
  have holds : stub.hasProxy := by simpa [hasProxy] using proxy
  have found := same.stub
  rw [first, Option.map_some, holds] at found
  obtain ⟨other, firstOther, otherHolds⟩ := Option.map_eq_some_iff.1 found.symm
  refine ⟨?_, other, firstOther, by simpa [hasProxy] using otherHolds⟩
  have present : (c.innerClasses.any fun inner => inner.name = "Default") = true := by
    simpa using hasDefault
  rw [same.default] at present
  simpa using present

theorem detect?_eq (same : SameMarkers c d) :
    AidlInterface.detect? c = AidlInterface.detect? d := by
  ext i
  rw [AidlInterface.detect?_eq_some_iff, AidlInterface.detect?_eq_some_iff, same.interface]
  exact and_congr_left' ⟨same.hasAidlShape, same.symm.hasAidlShape⟩

end SameMarkers

theorem Adds.name_eq {depth : Nat} {c d : ClassSymbol} (added : Adds depth c d) :
    d.name = c.name := by
  cases added <;> rfl

theorem Adds.hasProxy_eq {c d : ClassSymbol} (added : Adds 1 c d) : d.hasProxy = c.hasProxy := by
  cases added with
  | @direct _ _ other _ _ plain inner =>
    have differs : other.name ≠ "Proxy" := by simpa [markersAt] using plain
    simp [hasProxy, inner, differs]
  | within inner deeper => simp [hasProxy, inner, deeper.name_eq]

/-- A class that is put in counts neither as a `Default` nor as a stub, and one that is put in
further down leaves the name of the nested class, and whether it holds a `Proxy`, as they are. -/
theorem Adds.sameMarkers {c d : ClassSymbol} (added : Adds 0 c d) : SameMarkers c d := by
  cases added with
  | @direct _ _ other before after plain inner =>
    obtain ⟨noDefault, noStub⟩ : other.name ≠ "Default" ∧ other.name ≠ "Stub" := by
      simpa [markersAt] using plain
    refine ⟨rfl, ?_, ?_⟩
    · simp [inner, noDefault]
    · simp [inner, List.find?_append, noStub]
  | @within _ _ old new before after inner deeper =>
    refine ⟨rfl, ?_, ?_⟩
    · simp [inner, deeper.name_eq]
    · rw [inner, List.find?_append, List.find?_append, List.find?_cons, List.find?_cons,
        deeper.name_eq]
      cases before.find? fun inner => inner.name = "Stub" with
      | some stub => rfl
      | none =>
        by_cases isStub : old.name = "Stub"
        · simp [isStub, deeper.hasProxy_eq]
        · simp [isStub]

/-- Classes of one name keep their order, so the first of them stays the first. -/
theorem sameMarkers_of_perm (c : ClassSymbol) {inner : List ClassSymbol}
    (permuted : inner.Perm c.innerClasses)
    (stubs : (inner.filter fun d => d.name = "Stub") =
      c.innerClasses.filter fun d => d.name = "Stub") :
    SameMarkers { c with innerClasses := inner } c := by
  refine ⟨rfl, permuted.any_eq, ?_⟩
  rw [← List.head?_filter, ← List.head?_filter, stubs]

end ClassSymbol

namespace AidlInterface

/-- What is promised of the detector, whatever a class is and whatever is nested in it. -/
structure RecognisesShape (c : ClassSymbol) : Prop where
  isSome_iff : (detect? c).isSome ↔ c.HasAidlShape
  carries : ∀ i, detect? c = some i →
    i.interfaceName = c.fullName ∧ i.methods = c.methods.map MethodSymbol.signature ∧
      i.implementation = none
  reshaped : ∀ d, c.Reshaped d → detect? d = detect? c
  permuted : ∀ inner : List ClassSymbol, inner.Perm c.innerClasses →
    (inner.filter fun d => d.name = "Stub") = c.innerClasses.filter (fun d => d.name = "Stub") →
    detect? { c with innerClasses := inner } = detect? c

theorem detect?_of_reshaped {c d : ClassSymbol} (reshaped : c.Reshaped d) :
    detect? d = detect? c := by
  induction reshaped with
  | rel c d added => exact added.sameMarkers.symm.detect?_eq
  | refl c => rfl
  | symm c d _ same => exact same.symm
  | trans c d e _ _ first second => exact second.trans first

/-- The outcome is told by which nested classes bear the marker names, and carries nothing but
the class itself. -/
theorem recognisesShape (c : ClassSymbol) : RecognisesShape c where
  isSome_iff := isSome_detect?_iff
  carries i detected := by
    rw [(detect?_eq_some_iff.1 detected).2]
    exact ⟨rfl, rfl, rfl⟩
  reshaped _ := detect?_of_reshaped
  permuted _ order stubs := (c.sameMarkers_of_perm order stubs).detect?_eq

/-- Of two stubs the first decides. -/
example : detect?
    { fullName := "a.I", innerClasses := [
        { fullName := "a.I.Stub", name := "Stub" },
        { fullName := "a.I.Default", name := "Default" },
        { fullName := "a.I.Stub", name := "Stub"
          innerClasses := [{ fullName := "a.I.Stub.Proxy", name := "Proxy" }] }] } = none := by
  decide

end AidlInterface

end ClassAtlas
