import ClassAtlas.Provider
import ClassAtlas.Text.Cut

/-! Text search over reconstructed sources. A class whose own source does not
contain the text is passed over without a look at its methods. A class whose
reconstruction fails or crashes anywhere contributes nothing, and an empty text
occurs nowhere. -/
namespace ClassAtlas.Search

def contains (source needle : String) : Bool :=
  Text.occursIn needle.toList source.toList

def methodsIn (p : Provider) (needle : String) (c : ClassSymbol) :
    Except Mishap (List MethodSymbol) := do
  let source ← p.classSource c
  if contains source needle then
    c.methods.filterM fun m => do
      return ((← p.methodSource m).map fun body => contains body needle).getD false
  else return []

/-- The signatures of these methods, or none where the class fails. -/
def hits (p : Provider) (needle : String) (c : ClassSymbol) : List String :=
  match methodsIn p needle c with
  | .ok methods => methods.map MethodSymbol.signature
  | .error _ => []

/-- The signatures of all methods whose source contains a text, in class order. -/
def run (p : Provider) (classes : List ClassSymbol) (needle : String) : List String :=
  if needle = "" then [] else classes.flatMap (hits p needle)

end ClassAtlas.Search
