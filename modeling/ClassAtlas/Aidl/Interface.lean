import ClassAtlas.Symbol

/-! Interfaces that the AIDL compiler generated. It nests a class `Default` and a
class `Stub` in the interface, and a class `Proxy` in the stub; a service
implements the interface by extending `<interface>$Stub`. The shape is recognised
by these three names alone. -/
namespace ClassAtlas

/-- An interface of the AIDL shape, with the signatures of its own methods and,
once it is resolved, the class that implements it. -/
structure AidlInterface where
  interfaceName : String
  methods : List String
  implementation : Option String := none
  deriving DecidableEq

namespace AidlInterface

def stubName (i : AidlInterface) : String :=
  i.interfaceName ++ "$Stub"

def resolved (i : AidlInterface) (implementation : Option String) : AidlInterface :=
  { i with implementation := implementation }

/-- One pass over nested classes for a class named `Default` and the first class
named `Stub`, which ends as soon as both are found. -/
def scanMarkers (hasDefault : Bool) (stub : Option ClassSymbol) :
    List ClassSymbol → Bool × Option ClassSymbol
  | [] => (hasDefault, stub)
  | inner :: rest =>
    let seen :=
      if !hasDefault && inner.name = "Default" then (true, stub)
      else if stub.isNone && inner.name = "Stub" then (hasDefault, some inner)
      else (hasDefault, stub)
    if seen.1 && seen.2.isSome then seen else scanMarkers seen.1 seen.2 rest

/-- The interface that a class is, if its nested classes have the AIDL shape. -/
def detect? (c : ClassSymbol) : Option AidlInterface :=
  match scanMarkers false none c.innerClasses with
  | (true, some stub) =>
    if stub.innerClasses.any fun inner => inner.name = "Proxy" then
      some ⟨c.fullName, c.methods.map MethodSymbol.signature, none⟩
    else none
  | _ => none

end AidlInterface

end ClassAtlas
