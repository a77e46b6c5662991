import ClassAtlas.Aidl.Cache
import ClassAtlas.Provider
import ClassAtlas.World.Path

/-! A program instance: one path bound to one provider, with at most one loaded
program. Loading drops the previous program first, so a load that fails leaves
nothing loaded. The cache of resolved interfaces belongs to the loaded program. -/
namespace ClassAtlas

/-- A program and the interfaces resolved in it so far. -/
structure LoadedProgram where
  graph : ProgramGraph
  cache : ResolutionCache := .empty

/-- The summary of a program instance. -/
structure InstanceInfo where
  id : String
  path : String
  provider : String
  loaded : Bool
  classCount : Option UInt64
  fingerprint : Option String
  loadedAt : Option String
  cachedInterfaces : UInt64
  deriving DecidableEq

structure ProgramInstance where
  id : String
  path : String
  provider : Provider
  program : Option LoadedProgram := none

namespace ProgramInstance

def isLoaded (i : ProgramInstance) : Bool :=
  i.program.isSome

/-- Drop the loaded program, and tell whether there was one. -/
def unload (i : ProgramInstance) : Bool × ProgramInstance :=
  (i.isLoaded, { i with program := none })

def bind (i : ProgramInstance) (graph : ProgramGraph) : ProgramInstance :=
  { i with program := some ⟨graph, .empty⟩ }

def bindLoaded (i : ProgramInstance) (loaded : Except Failure ProgramGraph) :
    Except Failure Unit × ProgramInstance :=
  match loaded with
  | .ok graph => (.ok (), i.bind graph)
  | .error why => (.error why, { i with program := none })

def readFile (i : ProgramInstance) (w : World) : Except Failure ProgramGraph :=
  match w.entry i.path with
  | .error _ => .error (.invalidPath i.path .noSuchFile)
  | .ok (.folder _) => .error (.invalidPath i.path .notAFile)
  | .ok (.file _) => i.provider.load w [i.path]

/-- The paths of the files in a folder that the provider accepts, in the order of
their names. -/
def inputsAmong (i : ProgramInstance) (w : World) (names : List String) : List String :=
  let paths := (names.mergeSort fun a b => decide (a ≤ b)).map (Path.join i.path)
  paths.filter fun path => w.isFile path && i.provider.accepts path

def readFolder (i : ProgramInstance) (w : World) : Except Failure ProgramGraph :=
  match w.entry i.path with
  | .error _ => .error (.invalidPath i.path .noSuchDirectory)
  | .ok (.file _) => .error (.invalidPath i.path .notADirectory)
  | .ok (.folder (.error why)) => .error (.invalidPath i.path (.unlistable why))
  | .ok (.folder (.ok names)) =>
    match i.inputsAmong w names with
    | [] => .error (.invalidPath i.path .nothingLoadable)
    | inputs => i.provider.load w inputs

def load (i : ProgramInstance) (w : World) : Except Failure Unit × ProgramInstance :=
  i.bindLoaded (i.readFile w)

def loadFolder (i : ProgramInstance) (w : World) : Except Failure Unit × ProgramInstance :=
  i.bindLoaded (i.readFolder w)

/-- The loaded program. Without one no question can be answered. -/
def loaded (i : ProgramInstance) : Except Failure LoadedProgram :=
  match i.program with
  | some program => .ok program
  | none => .error .notLoaded

def info (i : ProgramInstance) : InstanceInfo where
  id := i.id
  path := i.path
  provider := i.provider.name
  loaded := i.isLoaded
  classCount := i.program.map fun p => p.graph.classCount.toUInt64
  fingerprint := i.program.bind fun p => p.graph.fingerprint
  loadedAt := i.program.bind fun p => p.graph.loadedAt
  cachedInterfaces :=
    match i.program with
    | some p => p.cache.size.toUInt64
    | none => 0

end ProgramInstance

end ClassAtlas
