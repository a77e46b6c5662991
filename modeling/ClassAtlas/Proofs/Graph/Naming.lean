import ClassAtlas.Proofs.Graph.Nesting
import ClassAtlas.Proofs.Reference.Conversion

/-! The names of nested classes in the two dialects. The source dialect joins them
with dots. The binary dialect joins them with `$` and writes an anonymous class by
its number alone; read back, only the last `$` can become a dot, and only before a
number. So the two names belong together for few ways of nesting. -/
namespace ClassAtlas

/-- A dotted name that is written without a `$`. -/
structure IsTopLevelName (name : String) : Prop where
  writable : isObjectName name.toList
  slash_not_mem : '/' ∉ name.toList
  dollar_not_mem : '$' ∉ name.toList

structure ProgramGraph.FollowsConvention (g : ProgramGraph) : Prop where
  top : ∀ c ∈ g.classes, IsTopLevelName c.fullName
  inner : ∀ outer ∈ g.allClasses, ∀ c ∈ outer.innerClasses,
    c.fullName = outer.fullName ++ "." ++ c.name
  distinct : (g.allClasses.map ClassSymbol.fullName).Nodup

/-- The convention without what it asks of the characters of a name. -/
structure ProgramGraph.NamesByPlace (g : ProgramGraph) : Prop where
  inner : ∀ outer ∈ g.allClasses, ∀ c ∈ outer.innerClasses,
    c.fullName = outer.fullName ++ "." ++ c.name
  distinct : (g.allClasses.map ClassSymbol.fullName).Nodup

/-- The number in the simple name of an anonymous class. -/
def anonymousNumber? (simple : String) : Option (List Char) :=
  let name := '.' :: simple.toList
  let digits := name.drop anonymousMark.length
  if name = anonymousMark ++ digits ∧ anonymousDigits digits then some digits else none

def sourceStep (simple : String) : List Char := '.' :: simple.toList

def binaryStep (simple : String) : List Char :=
  '$' :: (anonymousNumber? simple).getD simple.toList

def qualifiedName (top : String) (steps : List String) : String :=
  String.ofList (top.toList ++ steps.flatMap sourceStep)

def slashed (name : List Char) : List Char :=
  name.map fun c => if c = '.' then '/' else c

def internalName (top : String) (steps : List String) : List Char :=
  slashed top.toList ++ steps.flatMap binaryStep

def classDescriptor (top : String) (steps : List String) : String :=
  ownerDescriptor (internalName top steps)

/-- The way ends where it begins, or at an anonymous class one step below. -/
def IsAddressed : List String → Prop
  | [] => True
  | [simple] => (anonymousNumber? simple).isSome
  | _ => False

theorem anonymousNumber?_eq_some_iff {simple : String} {digits : List Char} :
    anonymousNumber? simple = some digits ↔
      anonymousDigits digits ∧ sourceStep simple = anonymousMark ++ digits := by
  unfold anonymousNumber? sourceStep
  constructor
  · intro found
    obtain ⟨⟨named, numbered⟩, same⟩ := Option.ite_none_right_eq_some.1 found
    cases same
    exact ⟨numbered, named⟩
  · rintro ⟨numbered, named⟩
    simp [named, numbered]

/-- What an addressed way adds to the name in either dialect. -/
theorem written_of_isAddressed {steps : List String} (addressed : IsAddressed steps) :
    (steps.flatMap binaryStep = [] ∧ steps.flatMap sourceStep = []) ∨
      ∃ digits, anonymousDigits digits ∧ steps.flatMap binaryStep = '$' :: digits ∧
        steps.flatMap sourceStep = anonymousMark ++ digits := by
  match steps, addressed with
  | [], _ => exact .inl ⟨rfl, rfl⟩
  | [simple], addressed =>
    obtain ⟨digits, number⟩ := Option.isSome_iff_exists.1 addressed
    obtain ⟨numbered, source⟩ := anonymousNumber?_eq_some_iff.1 number
    refine .inr ⟨digits, numbered, ?_, ?_⟩
    · rw [List.flatMap_singleton, binaryStep, number, Option.getD_some]
    · rw [List.flatMap_singleton, source]

theorem dotted_slashed {name : List Char} (plain : '/' ∉ name) : dotted (slashed name) = name := by
  induction name with
  | nil => rfl
  | cons c rest ih =>
    rw [List.mem_cons, not_or] at plain
    have kept := ih plain.2
    unfold dotted slashed at kept ⊢
    by_cases dot : c = '.'
    · simp [dot, kept]
    · simp [dot, kept, Ne.symm plain.1]

theorem mem_slashed {name : List Char} {c : Char} (member : c ∈ slashed name) :
    c ∈ name ∨ c = '/' := Text.mem_replaced member

theorem toList_qualifiedName (top : String) (steps : List String) :
    (qualifiedName top steps).toList = top.toList ++ steps.flatMap sourceStep :=
  String.toList_ofList

theorem dotted_internalName {top : String} (plain : '/' ∉ top.toList) (steps : List String) :
    dotted (internalName top steps) = top.toList ++ dotted (steps.flatMap binaryStep) := by
  rw [internalName, dotted_append, dotted_slashed plain]

section Addressed
variable {top : String} (named : IsTopLevelName top) {steps : List String}
include named

theorem isObjectName_internalName (addressed : IsAddressed steps) :
    isObjectName (internalName top steps) := by
  obtain ⟨nonempty, semicolon, opening, closing, bracket⟩ := isObjectName_iff.1 named.writable
  have absent (c : Char) (inTop : c ∉ top.toList)
      (other : c ≠ '/' ∧ c ≠ '$' ∧ c.isDigit = false) : c ∉ internalName top steps := by
    have inSlashed : c ∉ slashed top.toList := fun member =>
      (mem_slashed member).elim inTop other.1
    rcases written_of_isAddressed addressed with ⟨binary, _⟩ | ⟨digits, numbered, binary, _⟩
    · simp [internalName, binary, inSlashed]
    · simp [internalName, binary, inSlashed, other.2.1, not_mem_digits numbered other.2.2]
  refine isObjectName_iff.2 ⟨?_, absent ';' semicolon (by decide),
    absent '(' opening (by decide), absent ')' closing (by decide),
    absent '[' bracket (by decide)⟩
  simp [internalName, slashed, nonempty]

/-- Every `$` of an internal name but the last is kept, and the full name has none in
its place. -/
theorem isAddressed_of_normalizeSynthetic_eq
    (same : normalizeSynthetic (top.toList ++ dotted (steps.flatMap binaryStep)) =
      top.toList ++ steps.flatMap sourceStep) : IsAddressed steps := by
  match steps with
  | [] => trivial
  | simple :: rest =>
    have parts : dotted ((simple :: rest).flatMap binaryStep) =
        '$' :: (dotted ((anonymousNumber? simple).getD simple.toList) ++
          dotted (rest.flatMap binaryStep)) := by
      rw [List.flatMap_cons, binaryStep, dotted_append]
      rfl
    rw [parts, List.flatMap_cons, sourceStep] at same
    rcases normalizeSynthetic_cases _ with kept | ⟨outer, digits, numbered, glued, rewritten⟩
    · -- the first `$` is still there
      rw [kept] at same
      exact absurd (List.append_cancel_left same) (by simp)
    · rw [rewritten] at same
      rcases Text.eq_or_mark_of_append_eq named.dollar_not_mem glued with
        ⟨rfl, number⟩ | ⟨more, rfl⟩
      · -- the first `$` was the last, so there is one step and it is the number
        rw [List.append_assoc] at same
        have simpleName := List.append_cancel_left same
        have last : rest = [] := by
          cases rest with
          | nil => rfl
          | cons second others =>
            have dollar : '$' ∈ digits := by
              rw [number, List.flatMap_cons, binaryStep, dotted_append]
              simp [dotted]
            exact absurd dollar (not_mem_digits numbered rfl)
        subst last
        rw [List.flatMap_nil, List.append_nil] at simpleName
        have found := anonymousNumber?_eq_some_iff.2 ⟨numbered, simpleName.symm⟩
        simp [IsAddressed, found]
      · rw [List.append_assoc, List.append_assoc] at same
        exact absurd (List.append_cancel_left same) (by simp)

theorem sourceName_internalName_iff :
    (TypeDescriptor.object (internalName top steps)).sourceName = qualifiedName top steps ↔
      IsAddressed steps := by
  rw [← String.toList_inj, TypeDescriptor.toList_sourceName, toList_qualifiedName,
    TypeDescriptor.sourceChars, dotted_internalName named.slash_not_mem]
  constructor
  · exact isAddressed_of_normalizeSynthetic_eq named
  · intro addressed
    rcases written_of_isAddressed addressed with
      ⟨binary, source⟩ | ⟨digits, numbered, binary, source⟩
    · rw [binary, source, List.append_nil]
      simpa [dotted] using normalizeSynthetic_of_not_mem named.dollar_not_mem
    · have kept : dotted ('$' :: digits) = '$' :: digits :=
        dotted_of_not_mem (by simp [not_mem_digits numbered (c := '/') rfl])
      rw [binary, source, kept, normalizeSynthetic_append numbered, List.append_assoc]

theorem normalizeClassName_classDescriptor_iff :
    normalizeClassName (classDescriptor top steps) = .ok (qualifiedName top steps) ↔
      IsAddressed steps := by
  rw [classDescriptor, normalizeClassName_ownerDescriptor, typeNameToSource_ownerDescriptor_iff,
    sourceName_internalName_iff named]
  exact ⟨And.right, fun addressed => ⟨isObjectName_internalName named addressed, addressed⟩⟩

theorem normalizeClassName_qualifiedName (addressed : IsAddressed steps) :
    normalizeClassName (qualifiedName top steps) = .ok (qualifiedName top steps) := by
  obtain ⟨nonempty, semicolon, _, _, bracket⟩ := isObjectName_iff.1 named.writable
  have absent (c : Char) (inTop : c ∉ top.toList)
      (other : c ∉ anonymousMark ∧ c.isDigit = false) : c ∉ (qualifiedName top steps).toList := by
    rw [toList_qualifiedName]
    rcases written_of_isAddressed addressed with ⟨_, source⟩ | ⟨digits, numbered, _, source⟩
    · simp [source, inTop]
    · simp [source, inTop, other.1, not_mem_digits numbered other.2]
  apply normalizeClassName_of_plain
  · rw [toList_qualifiedName]
    simp [nonempty]
  · exact absent '/' named.slash_not_mem (by decide)
  · exact absent ';' semicolon (by decide)
  · exact absent '[' bracket (by decide)

end Addressed

theorem ProgramGraph.Nested.fullName_of_namesByPlace {g : ProgramGraph} (named : g.NamesByPlace)
    {top c : ClassSymbol} {steps : List String} (nested : g.Nested top steps c) :
    c.fullName = qualifiedName top.fullName steps := by
  induction nested with
  | top _ => simp [qualifiedName]
  | inner around nested ih =>
    rw [named.inner _ around.mem_allClasses _ nested, ih, ← String.toList_inj]
    simp [qualifiedName, sourceStep]

theorem ProgramGraph.Nested.fullName_eq {g : ProgramGraph} (convention : g.FollowsConvention)
    {top c : ClassSymbol} {steps : List String} (nested : g.Nested top steps c) :
    c.fullName = qualifiedName top.fullName steps :=
  nested.fullName_of_namesByPlace ⟨convention.inner, convention.distinct⟩

theorem ProgramGraph.Nested.top_mem {g : ProgramGraph} {top c : ClassSymbol}
    {steps : List String} (nested : g.Nested top steps c) : top ∈ g.classes := by
  induction nested with
  | top member => exact member
  | inner _ _ ih => exact ih

end ClassAtlas
