import ClassAtlas.Graph

/-! The flattened list of a program is closed under nesting: it holds the top-level
classes and with every class those nested in it, and nothing else. -/
namespace ClassAtlas

namespace ClassSymbol

theorem flatten_eq (c : ClassSymbol) : c.flatten = c :: flattenAll c.innerClasses := by
  cases c
  rfl

theorem self_mem_flatten (c : ClassSymbol) : c ∈ c.flatten := by
  rw [flatten_eq]
  exact List.mem_cons_self

theorem mem_flattenAll {classes : List ClassSymbol} {c : ClassSymbol} :
    c ∈ flattenAll classes ↔ ∃ top ∈ classes, c ∈ top.flatten := by
  induction classes with
  | nil => simp [flattenAll]
  | cons first rest ih => simp [flattenAll, ih]

theorem flattenAll_append (first second : List ClassSymbol) :
    flattenAll (first ++ second) = flattenAll first ++ flattenAll second := by
  induction first with
  | nil => rfl
  | cons c rest ih => rw [List.cons_append, flattenAll, flattenAll, ih, List.append_assoc]

mutual

theorem inner_mem_flatten {outer inner : ClassSymbol} (nested : inner ∈ outer.innerClasses) :
    ∀ c : ClassSymbol, outer ∈ c.flatten → inner ∈ c.flatten
  | ⟨_, _, _, _, _, _, innerClasses, _, _⟩, member => by
    rw [flatten_eq, List.mem_cons] at member ⊢
    right
    rcases member with rfl | deeper
    · exact mem_flattenAll.2 ⟨inner, nested, inner.self_mem_flatten⟩
    · exact inner_mem_flattenAll nested innerClasses deeper

theorem inner_mem_flattenAll {outer inner : ClassSymbol}
    (nested : inner ∈ outer.innerClasses) :
    ∀ classes : List ClassSymbol, outer ∈ flattenAll classes → inner ∈ flattenAll classes
  | [], member => by cases member
  | first :: rest, member => by
    rw [flattenAll, List.mem_append] at member ⊢
    rcases member with here | later
    · exact .inl (inner_mem_flatten nested first here)
    · exact .inr (inner_mem_flattenAll nested rest later)

end

end ClassSymbol

namespace ProgramGraph

/-- A class, the top-level class around it and the simple names on the way down. -/
inductive Nested (g : ProgramGraph) : ClassSymbol → List String → ClassSymbol → Prop where
  | top {c : ClassSymbol} (member : c ∈ g.classes) : Nested g c [] c
  | inner {top outer inner : ClassSymbol} {steps : List String}
      (around : Nested g top steps outer) (nested : inner ∈ outer.innerClasses) :
      Nested g top (steps ++ [inner.name]) inner

theorem Nested.mem_allClasses {g : ProgramGraph} {top c : ClassSymbol} {steps : List String}
    (nested : g.Nested top steps c) : c ∈ g.allClasses := by
  induction nested with
  | top member =>
    exact ClassSymbol.mem_flattenAll.2 ⟨_, member, ClassSymbol.self_mem_flatten _⟩
  | inner _ nested ih => exact ClassSymbol.inner_mem_flattenAll nested _ ih

mutual

theorem exists_nested_of_mem_flatten {g : ProgramGraph} {c : ClassSymbol} :
    ∀ (around : ClassSymbol) {top : ClassSymbol} {steps : List String},
      g.Nested top steps around → c ∈ around.flatten → ∃ top steps, g.Nested top steps c
  | ⟨_, _, _, _, _, _, innerClasses, _, _⟩, top, steps, nested, member => by
    rw [ClassSymbol.flatten_eq, List.mem_cons] at member
    rcases member with rfl | deeper
    · exact ⟨top, steps, nested⟩
    · exact exists_nested_of_mem_flattenAll innerClasses
        (fun inner listed => ⟨top, _, nested.inner listed⟩) deeper

theorem exists_nested_of_mem_flattenAll {g : ProgramGraph} {c : ClassSymbol} :
    ∀ classes : List ClassSymbol, (∀ around ∈ classes, ∃ top steps, g.Nested top steps around) →
      c ∈ ClassSymbol.flattenAll classes → ∃ top steps, g.Nested top steps c
  | [], _, member => by cases member
  | first :: rest, nested, member => by
    rw [ClassSymbol.flattenAll, List.mem_append] at member
    rcases member with here | later
    · obtain ⟨top, steps, first_nested⟩ := nested first List.mem_cons_self
      exact exists_nested_of_mem_flatten first first_nested here
    · exact exists_nested_of_mem_flattenAll rest
        (fun around listed => nested around (List.mem_cons_of_mem _ listed)) later

end

/-- Every class of the flattened list is nested somewhere. -/
theorem exists_nested {g : ProgramGraph} {c : ClassSymbol} (member : c ∈ g.allClasses) :
    ∃ top steps, g.Nested top steps c :=
  exists_nested_of_mem_flattenAll g.classes (fun top listed => ⟨top, [], .top listed⟩) member

theorem findClass?_of_mem {g : ProgramGraph}
    (distinct : (g.allClasses.map ClassSymbol.fullName).Nodup) {c : ClassSymbol}
    (member : c ∈ g.allClasses) : g.findClass? c.fullName = some c := by
  unfold findClass?
  generalize g.allClasses = classes at distinct member ⊢
  induction classes with
  | nil => cases member
  | cons first rest ih =>
    rw [List.map_cons, List.nodup_cons] at distinct
    rcases List.mem_cons.1 member with rfl | later
    · simp
    · have differs : first.fullName ≠ c.fullName := by
        intro same
        exact distinct.1 (same ▸ List.mem_map_of_mem later)
      rw [List.find?_cons_of_neg (by simpa using differs)]
      exact ih distinct.2 later

end ProgramGraph

end ClassAtlas
