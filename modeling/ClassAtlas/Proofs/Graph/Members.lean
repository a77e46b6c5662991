import ClassAtlas.Graph
import ClassAtlas.Provider.Snapshot

/-! Members belong to the class that lists them. In a program built of normalized
classes every class, however deep it is nested, is the declaring class of all its
members, whatever their input said. -/
namespace ClassAtlas

structure ClassSymbol.OwnsMembers (c : ClassSymbol) : Prop where
  methods : ∀ m ∈ c.methods, m.declaringClass = c.fullName
  fields : ∀ f ∈ c.fields, f.declaringClass = c.fullName

namespace ClassSymbol

mutual

theorem ownsMembers_of_mem_flatten {c : ClassSymbol} :
    ∀ d : ClassSymbol, c ∈ d.normalize.flatten → c.OwnsMembers
  | ⟨fullName, name, superclass, interfaces, methods, fields, inner, usedIn, source⟩, member => by
    rw [normalize, flatten, List.mem_cons] at member
    rcases member with rfl | deeper
    · constructor
      · intro m listed
        obtain ⟨_, _, rfl⟩ := List.mem_map.1 listed
        rfl
      · intro f listed
        obtain ⟨_, _, rfl⟩ := List.mem_map.1 listed
        rfl
    · exact ownsMembers_of_mem_flattenAll inner deeper

theorem ownsMembers_of_mem_flattenAll {c : ClassSymbol} :
    ∀ classes : List ClassSymbol, c ∈ flattenAll (normalizeAll classes) → c.OwnsMembers
  | [], member => by cases member
  | first :: rest, member => by
    rw [normalizeAll, flattenAll, List.mem_append] at member
    rcases member with here | later
    · exact ownsMembers_of_mem_flatten first here
    · exact ownsMembers_of_mem_flattenAll rest later

end

end ClassSymbol

/-- The classes of the program were normalized when it was built, as `ofClasses` does. -/
def ProgramGraph.IsNormalized (g : ProgramGraph) : Prop :=
  ∃ classes, g.classes = ClassSymbol.normalizeAll classes

theorem ProgramGraph.isNormalized_ofClasses (classes : List ClassSymbol)
    (manifest : Option String) : (ofClasses classes manifest).IsNormalized :=
  ⟨classes, rfl⟩

theorem ProgramGraph.IsNormalized.ownsMembers {g : ProgramGraph} (built : g.IsNormalized)
    {c : ClassSymbol} (member : c ∈ g.allClasses) : c.OwnsMembers := by
  obtain ⟨classes, same⟩ := built
  rw [allClasses, same] at member
  exact ClassSymbol.ownsMembers_of_mem_flattenAll classes member

/-- Every program that is read from snapshots is normalized. -/
theorem Snapshot.isNormalized_of_load {w : World} {inputs : List String} {g : ProgramGraph}
    (loaded : load w inputs = .ok g) : g.IsNormalized := by
  obtain ⟨parts, _, same⟩ := bind_eq_ok_iff.1 loaded
  cases same
  exact ⟨_, rfl⟩

end ClassAtlas
