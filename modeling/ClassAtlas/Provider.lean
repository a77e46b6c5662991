import ClassAtlas.Graph
import ClassAtlas.World

/-! A provider turns input files into a program and gives back the sources of its
classes and methods. -/
namespace ClassAtlas

structure Provider where
  name : String
  accepts : String → Bool
  /-- Load inputs, in order, into one program. -/
  load : World → List String → Except Failure ProgramGraph
  classSource : ClassSymbol → Except Mishap String
  /-- The source of a method, nothing if it has no body. -/
  methodSource : MethodSymbol → Except Mishap (Option String)

structure ProviderRegistry where
  providers : List Provider := []

namespace ProviderRegistry

def empty : ProviderRegistry := ⟨[]⟩

def register (r : ProviderRegistry) (p : Provider) : ProviderRegistry :=
  ⟨p :: r.providers.filter fun q => q.name != p.name⟩

def get? (r : ProviderRegistry) (name : String) : Option Provider :=
  r.providers.find? fun p => p.name = name

def names (r : ProviderRegistry) : List String :=
  (r.providers.map Provider.name).mergeSort fun a b => decide (a ≤ b)

end ProviderRegistry

end ClassAtlas
