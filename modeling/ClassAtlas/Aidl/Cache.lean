import ClassAtlas.Aidl.Implementation
import ClassAtlas.Failure

/-! Resolved interfaces, kept by interface name for as long as one program is
bound. A lookup answers from the cache unless it is forced; otherwise it finds the
class, detects the shape, resolves the implementation and stores the result under
the name of the class it found. -/
namespace ClassAtlas

structure ResolutionCache where
  entries : List (String × AidlInterface) := []

namespace ResolutionCache

def empty : ResolutionCache := ⟨[]⟩

def get? (cache : ResolutionCache) (name : String) : Option AidlInterface :=
  cache.entries.lookup name

def insert (cache : ResolutionCache) (i : AidlInterface) : ResolutionCache :=
  ⟨(i.interfaceName, i) :: cache.entries.filter fun entry => entry.1 != i.interfaceName⟩

def insertAll (cache : ResolutionCache) (interfaces : List AidlInterface) : ResolutionCache :=
  interfaces.foldl insert cache

def size (cache : ResolutionCache) : Nat :=
  cache.entries.length

def isEmpty (cache : ResolutionCache) : Bool :=
  cache.entries.isEmpty

/-- The names with an entry, in increasing order. -/
def names (cache : ResolutionCache) : List String :=
  (cache.entries.map Prod.fst).mergeSort fun a b => decide (a ≤ b)

end ResolutionCache

/-! One definition of a lookup, in any monad: what it has to do is counted by
running it with an access to the program that counts. -/

/-- The two ways in which a lookup turns to the program: to locate a class by its
name, and to search for the first class that a test accepts. -/
structure ProgramAccess (m : Type → Type) where
  locate : String → m (Option ClassSymbol)
  search : (ClassSymbol → Bool) → m (Option ClassSymbol)

namespace ResolutionCache
variable {m : Type → Type} [Monad m] (cache : ResolutionCache) (access : ProgramAccess m)
  (name : String)

/-- Find the class, detect the shape and resolve the implementation, and store
the result. A failure leaves the cache as it was. -/
def computeM : m (Except Failure AidlInterface × ResolutionCache) := do
  match ← access.locate name with
  | none => return (.error (.notFound (.type name)), cache)
  | some c =>
    match AidlInterface.detect? c with
    | none => return (.error (.notFound (.aidlShape name)), cache)
    | some detected =>
      let extender ← access.search detected.isExtendedBy
      let found := detected.resolved (extender.map ClassSymbol.fullName)
      return (.ok found, cache.insert found)

/-- The interface of a given name, from the cache if it is there and `force` is
not set. -/
def lookupM (force : Bool) : m (Except Failure AidlInterface × ResolutionCache) :=
  match if force then none else cache.get? name with
  | some hit => return (.ok hit, cache)
  | none => cache.computeM access name

end ResolutionCache

/-- What a lookup had to do: classes located by name, searches for an
implementation, and classes tested in them. -/
structure Work where
  located : Nat
  searches : Nat
  tested : Nat
  deriving DecidableEq

def Work.zero : Work := ⟨0, 0, 0⟩

/-- Access that counts each use, and in a search each test. -/
def ProgramAccess.counting (classes : List ClassSymbol) (locate : String → Option ClassSymbol) :
    ProgramAccess (StateM Work) where
  locate name := do
    modify fun work => { work with located := work.located + 1 }
    return locate name
  search accepts := do
    let scan := Scan.run accepts classes
    modify fun work =>
      { work with searches := work.searches + 1, tested := work.tested + scan.tested }
    return scan.found

/-- The answer of a lookup, the cache after it and the work it took. -/
structure Lookup where
  answer : Except Failure AidlInterface
  cache : ResolutionCache
  work : Work

def Lookup.ofCounted
    (counted : StateM Work (Except Failure AidlInterface × ResolutionCache)) : Lookup :=
  let outcome := Id.run (counted.run .zero)
  ⟨outcome.1.1, outcome.1.2, outcome.2⟩

namespace ResolutionCache

/-- A lookup that passes the cache by, with its work. -/
def compute (cache : ResolutionCache) (classes : List ClassSymbol) (name : String)
    (locate : String → Option ClassSymbol) : Lookup :=
  .ofCounted (cache.computeM (.counting classes locate) name)

/-- A lookup, with its work. -/
def lookup (cache : ResolutionCache) (classes : List ClassSymbol) (name : String)
    (force : Bool) (locate : String → Option ClassSymbol) : Lookup :=
  .ofCounted (cache.lookupM (.counting classes locate) name force)

end ResolutionCache

end ClassAtlas
