import ClassAtlas.Instance
import ClassAtlas.Reference
import ClassAtlas.Search

/-! Questions about the loaded program. Classes and members may be named in either
dialect; a binary name is converted first. Nothing but the interface cache changes
with a question. -/
namespace ClassAtlas.ProgramInstance

def manifest (i : ProgramInstance) : Except Failure String := do
  match (← i.loaded).graph.manifest with
  | some text => return text
  | none => throw (.notFound .manifest)

/-- The full names of all classes, each followed by those of its nested classes. -/
def allClasses (i : ProgramInstance) : Except Failure (List String) := do
  return (← i.loaded).graph.allClasses.map ClassSymbol.fullName

def findClass (i : ProgramInstance) (className : String) : Except Failure ClassSymbol := do
  let program ← i.loaded
  let name ← normalizeClassName className
  match program.graph.findClass? name with
  | some c => return c
  | none => throw (.notFound (.type name))

/-- A member of a class. The class is looked for before the member argument is read. -/
def findMember {α : Type} (i : ProgramInstance) (normalize : String → Except Failure String)
    (find? : ClassSymbol → String → Option α) (absent : String → Absent)
    (className member : String) : Except Failure α := do
  let c ← i.findClass className
  let signature ← normalize member
  match find? c signature with
  | some a => return a
  | none => throw (.notFound (absent signature))

def findMethod (i : ProgramInstance) (className method : String) : Except Failure MethodSymbol :=
  i.findMember normalizeMethod ClassSymbol.findMethod? .method className method

def findField (i : ProgramInstance) (className field : String) : Except Failure FieldSymbol :=
  i.findMember normalizeField ClassSymbol.findField? .field className field

def superclass (i : ProgramInstance) (className : String) : Except Failure String := do
  return (← i.findClass className).superclassOrDefault

def interfaces (i : ProgramInstance) (className : String) : Except Failure (List String) := do
  return (← i.findClass className).interfaces

def classMethods (i : ProgramInstance) (className : String) : Except Failure (List String) := do
  return (← i.findClass className).methods.map MethodSymbol.signature

def classFields (i : ProgramInstance) (className : String) : Except Failure (List String) := do
  return (← i.findClass className).fields.map FieldSymbol.signature

def classCallers (i : ProgramInstance) (className : String) : Except Failure (List String) := do
  return (← i.findClass className).usedIn

def methodCallers (i : ProgramInstance) (className method : String) :
    Except Failure (List String) := do
  return (← i.findMethod className method).usedIn

def methodOverrides (i : ProgramInstance) (className method : String) :
    Except Failure (List String) := do
  return (← i.findMethod className method).overrides

def fieldCallers (i : ProgramInstance) (className field : String) :
    Except Failure (List String) := do
  return (← i.findField className field).usedIn

/-- The source of a class. A crash of the provider is not caught here. -/
def classSource (i : ProgramInstance) (className : String) : Except Mishap String :=
  match i.findClass className with
  | .ok c => i.provider.classSource c
  | .error why => .error (.failure why)

def methodSource (i : ProgramInstance) (className method : String) : Except Mishap String :=
  match i.findMethod className method with
  | .error why => .error (.failure why)
  | .ok m =>
    match i.provider.methodSource m with
    | .error mishap => .error mishap
    | .ok (some source) => .ok source
    | .ok none => .error (.failure (.notFound (.methodSource m.signature)))

def searchText (i : ProgramInstance) (needle : String) : Except Failure (List String) := do
  return Search.run i.provider (← i.loaded).graph.allClasses needle

def withCache (i : ProgramInstance) (cache : ResolutionCache) : ProgramInstance :=
  { i with program := i.program.map fun p => { p with cache := cache } }

/-- The names of all AIDL interfaces in class order. Their implementations are
resolved together and stored. -/
def searchAidlClasses (i : ProgramInstance) : Except Failure (List String) × ProgramInstance :=
  match i.program with
  | none => (.error .notLoaded, i)
  | some p =>
    let classes := p.graph.allClasses
    let detected := classes.filterMap AidlInterface.detect?
    (.ok (detected.map AidlInterface.interfaceName),
      i.withCache (p.cache.insertAll (AidlInterface.resolveAll detected classes)))

/-- The AIDL interface with a name, from the cache unless `force` is set. -/
def aidlInterface (i : ProgramInstance) (interfaceName : String) (force : Bool) :
    Except Failure AidlInterface × ProgramInstance :=
  match i.program, normalizeClassName interfaceName with
  | none, _ => (.error .notLoaded, i)
  | some _, .error why => (.error why, i)
  | some p, .ok name =>
    let found := p.cache.lookup p.graph.allClasses name force p.graph.findClass?
    (found.answer, i.withCache found.cache)

def aidlMethods (i : ProgramInstance) (interfaceName : String) :
    Except Failure (List String) × ProgramInstance :=
  let (answer, i) := i.aidlInterface interfaceName false
  (answer.map AidlInterface.methods, i)

def aidlImplementation (i : ProgramInstance) (interfaceName : String) :
    Except Failure String × ProgramInstance :=
  let (answer, i) := i.aidlInterface interfaceName false
  let implementation := answer.bind fun found =>
    match found.implementation with
    | some c => .ok c
    | none => .error (.notFound (.implementation found.interfaceName))
  (implementation, i)

end ClassAtlas.ProgramInstance
