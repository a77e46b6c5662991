import ClassAtlas.Proofs.Graph.Members
import ClassAtlas.Proofs.Graph.Nesting
import ClassAtlas.Proofs.Text.Cut
import Mathlib.Data.List.Forall2

/-! Building a program fills in what the class tree itself determines, in every class
however deep it is nested, and changes nothing else. A class that was renamed after its
members were added is put right by it, and a program that was built once stays as it is. -/
namespace ClassAtlas

/-- What stands after the last dot of a name, or all of it if it has none. -/
def IsAfterLastDot (fullName last : String) : Prop :=
  '.' ∉ last.toList ∧ (last = fullName ∨ ∃ before, fullName = before ++ "." ++ last)

theorem isAfterLastDot_simpleName (fullName : String) :
    IsAfterLastDot fullName (simpleName fullName) := by
  unfold simpleName
  cases cut : Text.cutLast '.' fullName.toList with
  | none => exact ⟨Text.cutLast_eq_none_iff.1 cut, .inl rfl⟩
  | some parts =>
    obtain ⟨before, last⟩ := parts
    refine ⟨?_, .inr ⟨String.ofList before, ?_⟩⟩
    · rw [String.toList_ofList]
      exact Text.not_mem_cutLast cut
    · rw [← String.toList_inj, Text.cutLast_eq cut]
      simp

/-- A class before and after its program was built. -/
structure ClassSymbol.NormalizedFrom (old new : ClassSymbol) : Prop where
  fullName : new.fullName = old.fullName
  name : if old.name = "" then IsAfterLastDot old.fullName new.name else new.name = old.name
  superclass : new.superclass = old.superclass
  interfaces : new.interfaces = old.interfaces
  methods : new.methods = old.methods.map fun m => { m with declaringClass := new.fullName }
  fields : new.fields = old.fields.map fun f => { f with declaringClass := new.fullName }
  innerClasses : new.innerClasses.map ClassSymbol.fullName =
    old.innerClasses.map ClassSymbol.fullName
  usedIn : new.usedIn = old.usedIn
  source : new.source = old.source

namespace ClassSymbol

theorem normalizeAll_eq_map (classes : List ClassSymbol) :
    normalizeAll classes = classes.map normalize := by
  induction classes with
  | nil => rfl
  | cons c rest ih => rw [normalizeAll, ih, List.map_cons]

@[simp] theorem fullName_normalize (c : ClassSymbol) : c.normalize.fullName = c.fullName := by
  cases c
  rfl

theorem innerClasses_normalize (c : ClassSymbol) :
    c.normalize.innerClasses = c.innerClasses.map normalize := by
  rw [← normalizeAll_eq_map]
  cases c
  rfl

theorem name_normalize (c : ClassSymbol) :
    c.normalize.name = if c.name = "" then simpleName c.fullName else c.name := by
  cases c
  rfl

theorem normalizedFrom_normalize (c : ClassSymbol) : c.NormalizedFrom c.normalize where
  fullName := c.fullName_normalize
  name := by
    rw [name_normalize]
    split
    · exact isAfterLastDot_simpleName c.fullName
    · rfl
  superclass := by cases c; rfl
  interfaces := by cases c; rfl
  methods := by cases c; rfl
  fields := by cases c; rfl
  innerClasses := by
    rw [innerClasses_normalize, List.map_map]
    exact List.map_congr_left fun inner _ => inner.fullName_normalize
  usedIn := by cases c; rfl
  source := by cases c; rfl

mutual

theorem normalizedFrom_flatten :
    ∀ c : ClassSymbol, List.Forall₂ NormalizedFrom c.flatten c.normalize.flatten
  | ⟨fullName, name, superclass, interfaces, methods, fields, inner, usedIn, source⟩ => by
    rw [flatten_eq, flatten_eq]
    exact .cons (normalizedFrom_normalize _) (normalizedFrom_flattenAll inner)

theorem normalizedFrom_flattenAll :
    ∀ classes : List ClassSymbol,
      List.Forall₂ NormalizedFrom (flattenAll classes) (flattenAll (normalizeAll classes))
  | [] => .nil
  | c :: rest => List.rel_append (normalizedFrom_flatten c) (normalizedFrom_flattenAll rest)

end

mutual

theorem normalize_normalize : ∀ c : ClassSymbol, c.normalize.normalize = c.normalize
  | ⟨fullName, name, superclass, interfaces, methods, fields, inner, usedIn, source⟩ => by
    simp only [normalize, List.map_map, Function.comp_def, normalizeAll_normalizeAll inner]
    by_cases empty : name = "" <;> simp [empty]

theorem normalizeAll_normalizeAll :
    ∀ classes : List ClassSymbol, normalizeAll (normalizeAll classes) = normalizeAll classes
  | [] => rfl
  | c :: rest => by
    simp only [normalizeAll, normalize_normalize c, normalizeAll_normalizeAll rest]

end

/-- A member is written behind the name of the class that lists it. -/
structure PrefixesSignatures (c : ClassSymbol) : Prop where
  methods : ∀ m ∈ c.methods, ∃ rest, m.signature = c.fullName ++ "." ++ rest
  fields : ∀ f ∈ c.fields, ∃ rest, f.signature = c.fullName ++ "." ++ rest

theorem OwnsMembers.prefixesSignatures {c : ClassSymbol} (owns : c.OwnsMembers) :
    c.PrefixesSignatures where
  methods m listed := by
    refine ⟨m.name ++ "(" ++ ", ".intercalate m.params ++ "):" ++ m.returnType, ?_⟩
    rw [MethodSymbol.signature, owns.methods m listed]
    simp only [String.append_assoc]
  fields f listed := by
    refine ⟨f.name ++ " :" ++ f.fieldType, ?_⟩
    rw [FieldSymbol.signature, owns.fields f listed]
    simp only [String.append_assoc]

end ClassSymbol

namespace ProgramGraph

/-- What a program says of the classes that it was built from. -/
structure BuiltFrom (g : ProgramGraph) (forest : List ClassSymbol) : Prop where
  /-- Class by class in the order of the flattened lists. -/
  corresponds : List.Forall₂ ClassSymbol.NormalizedFrom (ClassSymbol.flattenAll forest) g.allClasses
  owns : ∀ c ∈ g.allClasses, c.OwnsMembers
  prefixes : ∀ c ∈ g.allClasses, c.PrefixesSignatures
  idempotent : ∀ manifest, (ofClasses g.classes manifest).classes = g.classes

theorem IsNormalized.normalizeAll_classes {g : ProgramGraph} (built : g.IsNormalized) :
    ClassSymbol.normalizeAll g.classes = g.classes := by
  obtain ⟨classes, same⟩ := built
  rw [same, ClassSymbol.normalizeAll_normalizeAll]

theorem builtFrom_ofClasses (forest : List ClassSymbol) (manifest : Option String) :
    (ofClasses forest manifest).BuiltFrom forest where
  corresponds := ClassSymbol.normalizedFrom_flattenAll forest
  owns _ member := (isNormalized_ofClasses forest manifest).ownsMembers member
  prefixes _ member :=
    ((isNormalized_ofClasses forest manifest).ownsMembers member).prefixesSignatures
  idempotent _ := (isNormalized_ofClasses forest manifest).normalizeAll_classes

/-- A class that is renamed keeps its simple name, and its members follow it. -/
example :
    let old := (ClassSymbol.ofFullName "a.Old").withMethod { name := "run", returnType := "int" }
    (ofClasses [{ old with fullName := "b.New" }] none).classes.map
      (fun c => (c.name, c.methods.map MethodSymbol.signature)) =
        [("Old", ["b.New.run():int"])] := by
  decide

end ProgramGraph

end ClassAtlas
