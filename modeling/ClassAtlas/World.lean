import ClassAtlas.Failure

/-! The world outside a program, as it is at the time of one call. -/
namespace ClassAtlas

inductive Entry where
  /-- The bytes of a file, unless it cannot be read. -/
  | file (bytes : Except Obstacle (List UInt8))
  /-- The names in a folder, in the order in which they happen to be listed, unless it
  cannot be listed. -/
  | folder (names : Except Obstacle (List String))

structure World where
  entry : String → Except Obstacle Entry
  time : String

namespace World

def readFile (w : World) (path : String) : Except Obstacle (List UInt8) := do
  match ← w.entry path with
  | .file bytes => bytes
  | .folder _ => throw .isFolder

def isFile (w : World) (path : String) : Bool :=
  match w.entry path with
  | .ok (.file _) => true
  | _ => false

def isFolder (w : World) (path : String) : Bool :=
  match w.entry path with
  | .ok (.folder _) => true
  | _ => false

end World

end ClassAtlas
