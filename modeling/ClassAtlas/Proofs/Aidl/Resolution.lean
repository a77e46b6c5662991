import ClassAtlas.Aidl.Implementation

/-! The implementation of an interface is the first class that extends its stub.
The scan for one interface and the table for many find the same class, so an
interface that is resolved in a class list does not depend on how it was
resolved. -/
namespace ClassAtlas.AidlInterface

def firstExtender? (classes : List ClassSymbol) (superclass : String) : Option String :=
  (classes.find? fun c => c.superclass = some superclass).map ClassSymbol.fullName

def resolvedIn (i : AidlInterface) (classes : List ClassSymbol) : AidlInterface :=
  i.resolved (firstExtender? classes i.stubName)

@[simp] theorem interfaceName_resolvedIn (i : AidlInterface) (classes : List ClassSymbol) :
    (i.resolvedIn classes).interfaceName = i.interfaceName := rfl

/-- The class declares the superclass, and no class before it in the list does. -/
structure IsFirstExtender (classes : List ClassSymbol) (superclass : String) (c : ClassSymbol) :
    Prop where
  declared : c.superclass = some superclass
  first : ∃ before after, classes = before ++ c :: after ∧
    ∀ d ∈ before, d.superclass ≠ some superclass

theorem IsFirstExtender.mem {classes : List ClassSymbol} {superclass : String} {c : ClassSymbol}
    (extender : IsFirstExtender classes superclass c) : c ∈ classes := by
  obtain ⟨before, after, rfl, _⟩ := extender.first
  simp

theorem firstExtender?_eq_some_iff {classes : List ClassSymbol} {superclass name : String} :
    firstExtender? classes superclass = some name ↔
      ∃ c, IsFirstExtender classes superclass c ∧ c.fullName = name := by
  unfold firstExtender?
  rw [Option.map_eq_some_iff]
  constructor
  · rintro ⟨c, found, named⟩
    obtain ⟨declared, before, after, split, earlier⟩ := List.find?_eq_some_iff_append.1 found
    exact ⟨c, ⟨by simpa using declared, before, after, split, by simpa using earlier⟩, named⟩
  · rintro ⟨c, ⟨declared, before, after, split, earlier⟩, named⟩
    refine ⟨c, List.find?_eq_some_iff_append.2 ?_, named⟩
    exact ⟨by simpa using declared, before, after, split, by simpa using earlier⟩

theorem firstExtender?_eq_none_iff {classes : List ClassSymbol} {superclass : String} :
    firstExtender? classes superclass = none ↔ ∀ c ∈ classes, c.superclass ≠ some superclass := by
  simp [firstExtender?]

theorem implementationIn?_eq (i : AidlInterface) (classes : List ClassSymbol) :
    i.implementationIn? classes = firstExtender? classes i.stubName := by
  unfold implementationIn? scanImplementation
  rw [Scan.found_run]
  rfl

theorem lookup_addExtender (table : List (String × String)) (c : ClassSymbol)
    (superclass : String) :
    (addExtender table c).lookup superclass =
      (table.lookup superclass).or
        (if c.superclass = some superclass then some c.fullName else none) := by
  unfold addExtender
  cases declared : c.superclass with
  | none => simp
  | some other =>
    by_cases same : other = superclass
    · subst same
      cases known : table.lookup other <;> simp [known, List.lookup_append]
    · have differs : (superclass == other) = false := by simpa using Ne.symm same
      cases known : table.lookup other <;>
        simp [known, same, differs, List.lookup_append, List.lookup_cons]

/-- An entry is never replaced, so whoever extends a superclass first stays. -/
private theorem lookup_foldl_addExtender (superclass : String) (classes : List ClassSymbol)
    (table : List (String × String)) :
    (classes.foldl addExtender table).lookup superclass =
      (table.lookup superclass).or (firstExtender? classes superclass) := by
  unfold firstExtender?
  induction classes generalizing table with
  | nil => simp
  | cons c rest ih =>
    rw [List.foldl_cons, ih, lookup_addExtender, Option.or_assoc]
    by_cases declared : c.superclass = some superclass <;> simp [declared]

theorem lookup_firstExtenders (classes : List ClassSymbol) (superclass : String) :
    (firstExtenders classes).lookup superclass = firstExtender? classes superclass := by
  unfold firstExtenders
  rw [lookup_foldl_addExtender]
  rfl

theorem resolveAll_eq (interfaces : List AidlInterface) (classes : List ClassSymbol) :
    resolveAll interfaces classes = interfaces.map fun i => i.resolvedIn classes := by
  simp only [resolveAll, lookup_firstExtenders, resolvedIn]

/-- A batch resolves each of its interfaces, in order, as the scan for that interface
alone does, and the scan names the first class that extends the stub. -/
theorem resolveAll_matches_scan (interfaces : List AidlInterface) (classes : List ClassSymbol) :
    (resolveAll interfaces classes).length = interfaces.length ∧
      (∀ n : Nat, (resolveAll interfaces classes)[n]? =
        interfaces[n]?.map fun i => i.resolved (i.implementationIn? classes)) ∧
      ∀ (i : AidlInterface) (name : String),
        i.implementationIn? classes = some name ↔
          ∃ c, IsFirstExtender classes i.stubName c ∧ c.fullName = name := by
  rw [resolveAll_eq]
  refine ⟨List.length_map .., ?_, ?_⟩
  · intro n
    simp only [List.getElem?_map, implementationIn?_eq]
    rfl
  · intro i name
    rw [implementationIn?_eq, firstExtender?_eq_some_iff]

theorem eq_of_resolvedIn_eq {i j : AidlInterface} {classes : List ClassSymbol}
    (unresolved : i.implementation = j.implementation)
    (same : i.resolvedIn classes = j.resolvedIn classes) : i = j := by
  cases i
  cases j
  simp_all [resolvedIn, resolved]

end ClassAtlas.AidlInterface
