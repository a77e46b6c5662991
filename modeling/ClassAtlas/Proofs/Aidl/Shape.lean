import ClassAtlas.Aidl.Interface

/-! The shape of an AIDL interface as a property of its nested classes. The
detector scans them in order and stops early; what it decides depends on whether
a `Default` is among them and on which `Stub` comes first, and on nothing else. -/
namespace ClassAtlas

/-- The markers that the AIDL compiler nests in an interface. Only the first of
several stubs counts. -/
structure ClassSymbol.HasAidlShape (c : ClassSymbol) : Prop where
  hasDefault : ∃ inner ∈ c.innerClasses, inner.name = "Default"
  hasProxy : ∃ stub, c.innerClasses.find? (fun inner => inner.name = "Stub") = some stub ∧
    ∃ inner ∈ stub.innerClasses, inner.name = "Proxy"

def ClassSymbol.asInterface (c : ClassSymbol) : AidlInterface :=
  ⟨c.fullName, c.methods.map MethodSymbol.signature, none⟩

namespace AidlInterface

/-- The early end of the scan loses nothing: once both markers are found, a later
one would not replace them. -/
theorem scanMarkers_eq (hasDefault : Bool) (stub : Option ClassSymbol)
    (inner : List ClassSymbol) :
    scanMarkers hasDefault stub inner =
      (hasDefault || inner.any (fun c => c.name = "Default"),
        stub.or (inner.find? fun c => c.name = "Stub")) := by
  induction inner generalizing hasDefault stub with
  | nil => simp [scanMarkers]
  | cons first rest ih =>
    unfold scanMarkers
    by_cases isDefault : first.name = "Default"
    · cases hasDefault <;> cases stub <;> simp [isDefault, ih]
    · by_cases isStub : first.name = "Stub"
      · cases hasDefault <;> cases stub <;> simp [isStub, ih]
      · cases hasDefault <;> cases stub <;> simp [isDefault, isStub, ih]

theorem detect?_eq_some_iff {c : ClassSymbol} {i : AidlInterface} :
    detect? c = some i ↔ c.HasAidlShape ∧ i = c.asInterface := by
  unfold detect?
  rw [scanMarkers_eq]
  constructor
  · intro detected
    split at detected
    · next stub markers =>
      obtain ⟨hasDefault, first⟩ := Prod.mk.inj markers
      split at detected
      · next hasProxy =>
        refine ⟨⟨?_, stub, by simpa using first, by simpa using hasProxy⟩, ?_⟩
        · simpa using hasDefault
        · exact (Option.some.inj detected).symm
      · cases detected
    · cases detected
  · rintro ⟨⟨hasDefault, stub, first, hasProxy⟩, rfl⟩
    have markers : (false || c.innerClasses.any fun inner => inner.name = "Default") = true := by
      simpa using hasDefault
    have proxy : (stub.innerClasses.any fun inner => inner.name = "Proxy") = true := by
      simpa using hasProxy
    rw [markers, Option.none_or, first]
    simp only [proxy, if_true]
    rfl

theorem isSome_detect?_iff {c : ClassSymbol} : (detect? c).isSome ↔ c.HasAidlShape := by
  rw [Option.isSome_iff_exists]
  simp only [detect?_eq_some_iff, exists_and_left, exists_eq, and_true]

instance (c : ClassSymbol) : Decidable c.HasAidlShape :=
  decidable_of_iff ((detect? c).isSome) isSome_detect?_iff

theorem filterMap_detect? (classes : List ClassSymbol) :
    classes.filterMap detect? =
      (classes.filter fun c => c.HasAidlShape).map ClassSymbol.asInterface := by
  induction classes with
  | nil => rfl
  | cons c rest ih =>
    by_cases shape : c.HasAidlShape
    · have detected : detect? c = some c.asInterface := detect?_eq_some_iff.2 ⟨shape, rfl⟩
      simp [detected, shape, ih]
    · have missed : detect? c = none :=
        Option.eq_none_iff_forall_ne_some.2 fun i detected => shape (detect?_eq_some_iff.1 detected).1
      simp [missed, shape, ih]

theorem interfaceName_of_detect? {c : ClassSymbol} {i : AidlInterface}
    (detected : detect? c = some i) : i.interfaceName = c.fullName := by
  rw [(detect?_eq_some_iff.1 detected).2]
  rfl

end AidlInterface

end ClassAtlas
