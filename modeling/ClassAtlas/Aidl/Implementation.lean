import ClassAtlas.Aidl.Interface

/-! The class that implements an AIDL interface is the first one, in the order of
the class list, whose declared superclass is the interface's stub. One interface
is resolved by a scan that stops at that class; many are resolved together from
a table of first extenders built in one pass. -/
namespace ClassAtlas

/-- The outcome of a scan: the first match and how many items were tested. -/
structure Scan (α : Type) where
  found : Option α
  tested : Nat

/-- Test items in order up to and including the first match. -/
def Scan.run {α : Type} (accepts : α → Bool) : List α → Scan α
  | [] => ⟨none, 0⟩
  | a :: rest =>
    if accepts a then ⟨some a, 1⟩
    else
      let later := Scan.run accepts rest
      ⟨later.found, later.tested + 1⟩

theorem Scan.found_run {α : Type} (accepts : α → Bool) (items : List α) :
    (Scan.run accepts items).found = items.find? accepts := by
  induction items with
  | nil => rfl
  | cons a rest ih =>
    by_cases h : accepts a <;> simp [Scan.run, h, ih]

namespace AidlInterface

def isExtendedBy (i : AidlInterface) (c : ClassSymbol) : Bool :=
  c.superclass = some i.stubName

def scanImplementation (i : AidlInterface) (classes : List ClassSymbol) : Scan ClassSymbol :=
  Scan.run i.isExtendedBy classes

/-- The full name of the implementing class, if there is one. -/
def implementationIn? (i : AidlInterface) (classes : List ClassSymbol) : Option String :=
  (i.scanImplementation classes).found.map ClassSymbol.fullName

/-- Note a class as the one that extends its superclass, unless another is noted. -/
def addExtender (table : List (String × String)) (c : ClassSymbol) : List (String × String) :=
  match c.superclass with
  | some superclass =>
    if (table.lookup superclass).isSome then table else table ++ [(superclass, c.fullName)]
  | none => table

/-- For every declared superclass, the full name of the first class that declares
it. -/
def firstExtenders (classes : List ClassSymbol) : List (String × String) :=
  classes.foldl addExtender []

def resolveAll (interfaces : List AidlInterface) (classes : List ClassSymbol) :
    List AidlInterface :=
  let table := firstExtenders classes
  interfaces.map fun i => i.resolved (table.lookup i.stubName)

end AidlInterface

end ClassAtlas
