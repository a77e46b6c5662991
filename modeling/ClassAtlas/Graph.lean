import ClassAtlas.Symbol

/-! One loaded program: its top-level classes and what is known of their load.
Questions are asked of the flattened list, in which every class is followed by
its nested classes; where a name occurs twice the first class answers. -/
namespace ClassAtlas

structure ProgramGraph where
  classes : List ClassSymbol
  manifest : Option String := none
  inputs : List String := []
  fingerprint : Option String := none
  loadedAt : Option String := none

namespace ProgramGraph

/-- A graph of normalized classes that comes from no input. -/
def ofClasses (classes : List ClassSymbol) (manifest : Option String) : ProgramGraph :=
  ⟨ClassSymbol.normalizeAll classes, manifest, [], none, none⟩

/-- Every class of the program, each followed by its nested classes. -/
def allClasses (g : ProgramGraph) : List ClassSymbol :=
  ClassSymbol.flattenAll g.classes

def classCount (g : ProgramGraph) : Nat :=
  g.allClasses.length

/-- The first class of the flattened list with this full name. -/
def findClass? (g : ProgramGraph) (fullName : String) : Option ClassSymbol :=
  g.allClasses.find? fun c => c.fullName = fullName

end ProgramGraph

end ClassAtlas
