import ClassAtlas.World
import ClassAtlas.World.Path

/-! Files and folders in memory. A path is walked name by name from the root of the
tree; only a folder can be walked on, even by a name that leads nowhere else. -/
namespace ClassAtlas

inductive FileTree where
  | file (bytes : List UInt8)
  | folder (entries : List (String × FileTree))

namespace FileTree

/-- The part of a folder's list from a name on, with a new entry for it. -/
def setEntry (name : String) (t : FileTree) : List (String × FileTree) → List (String × FileTree)
  | [] => [(name, t)]
  | entry :: rest => if entry.1 = name then (name, t) :: rest else entry :: setEntry name t rest

/-- Put a tree at a place that is given by its names from the root, with the folders
on the way. A folder that is already there stays as it is. -/
def putAt (new : FileTree) : List String → FileTree → FileTree
  | [], here =>
    match new, here with
    | folder [], folder entries => folder entries
    | _, _ => new
  | name :: rest, here =>
    let entries :=
      match here with
      | folder entries => entries
      | file _ => []
    folder (setEntry name (putAt new rest ((entries.lookup name).getD (folder []))) entries)

/-- The places that the segments of a path pass one after the other, each by its names
from the root. `trail` holds the names so far, nearest first. -/
def places (trail : List String) : List String → List (List String)
  | [] => []
  | segment :: rest =>
    let trail :=
      if Path.isIdle segment then trail
      else if segment = ".." then trail.drop 1
      else segment :: trail
    trail.reverse :: places trail rest

/-- Put a tree where a path leads, with a folder at every place that the path passes
before. -/
def put (new : FileTree) (segments : List String) (t : FileTree) : FileTree :=
  let passed := places [] segments
  let prepared := passed.dropLast.foldl (fun t place => putAt (folder []) place t) t
  putAt new (passed.getLast?.getD []) prepared

def longestName : Nat := 255

/-- Paths of more bytes than this are not even looked at, wherever they lead. -/
def longestPath : Nat := 4095

def tooLong : Obstacle := .other "File name too long (os error 36)"

/-- Walk from a tree along the segments of a path. `trail` holds the names on the way
from the root and the folders they stand in, nearest first. Above the root there is
only an empty folder. -/
def walk (trail : List (String × FileTree)) (here : FileTree) :
    List String → Except Obstacle (List String × FileTree)
  | [] => .ok (trail.reverse.map Prod.fst, here)
  | segment :: rest =>
    match here with
    | file _ => .error .notFolder
    | folder entries =>
      if Path.isIdle segment then walk trail here rest
      else if segment = ".." then
        match trail with
        | [] => walk [] (folder []) rest
        | (_, above) :: trail => walk trail above rest
      else if longestName < segment.utf8ByteSize then .error tooLong
      else
        match entries.lookup segment with
        | none => .error .missing
        | some t => walk ((segment, here) :: trail) t rest

/-- Where a path leads, if `root` is the path of the tree: the names from the root,
and what is there. -/
def locate (root : String) (t : FileTree) (path : String) :
    Except Obstacle (List String × FileTree) :=
  let start := Path.segments root
  let segments := Path.segments path
  if start.isPrefixOf segments then walk [] t (segments.drop start.length) else .error .missing

def entry : FileTree → Entry
  | file bytes => .file (.ok bytes)
  | folder entries => .folder (.ok (entries.map Prod.fst))

/-- What a path leads to, if it is a path at all. -/
def look (root : String) (t : FileTree) (path : String) : Except Obstacle Entry :=
  if path.toList.contains '\x00' then .error (.other "file name contained an unexpected NUL byte")
  else if longestPath < path.utf8ByteSize then .error tooLong
  else (locate root t path).map fun found => found.2.entry

def world (root : String) (t : FileTree) (time : String) : World := ⟨look root t, time⟩

/-- The shortest path to the same place. The way to it may be longer than a path can
be, because it is walked step by step. -/
def canonical? (root : String) (t : FileTree) (path : String) : Option String :=
  match locate root t path with
  | .ok (names, _) => some ("/".intercalate (root :: names))
  | .error _ => none

end FileTree

end ClassAtlas
