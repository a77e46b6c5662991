import ClassAtlas.Text.Cut

/-! Paths are texts of names between slashes. Empty names and single dots change
nothing, so a path may end in them. -/
namespace ClassAtlas.Path

def segments (path : String) : List String :=
  (Text.pieces '/' path.toList).map String.ofList

def isIdle (segment : String) : Bool := segment = "" || segment = "."

/-- The name at the end of a path. A path that ends in two dots has none. -/
def name? (path : String) : Option String :=
  match ((segments path).filter fun segment => !isIdle segment).getLast? with
  | some name => if name = ".." then none else some name
  | none => none

/-- What stands behind the last dot of the name, unless the name starts with that
dot. -/
def extension? (path : String) : Option String :=
  match (name? path).bind fun name => Text.cutLast '.' name.toList with
  | some (_ :: _, extension) => some (String.ofList extension)
  | _ => none

/-- A path relative to a folder. A path that starts with a slash does not need
one. -/
def join (folder path : String) : String :=
  if path.toList.head? = some '/' then path
  else if folder = "" || folder.toList.getLast? = some '/' then folder ++ path
  else folder ++ "/" ++ path

end ClassAtlas.Path
