import ClassAtlas.Proofs.Descriptor.Reading
import Mathlib.Data.List.Basic

/-! Source names of types. An object name is rewritten at most once, at its last
`$`, and nothing is written that was not in the name or in a fixed text. -/
namespace ClassAtlas

theorem mem_dotted {internal : List Char} {c : Char} (member : c ∈ dotted internal) :
    c ∈ internal ∨ c = '.' := Text.mem_replaced member

theorem slash_not_mem_dotted (internal : List Char) : '/' ∉ dotted internal :=
  Text.not_mem_replaced (by decide) internal

theorem dotted_append (first second : List Char) :
    dotted (first ++ second) = dotted first ++ dotted second := List.map_append

theorem dotted_of_not_mem {name : List Char} (plain : '/' ∉ name) : dotted name = name := by
  have kept : ∀ c ∈ name, (if c = '/' then '.' else c) = c := by
    intro c member
    rw [if_neg]
    rintro rfl
    exact plain member
  rw [dotted, List.map_congr_left kept, List.map_id'']
  exact fun _ => rfl

theorem infix_of_infix_dotted {mark name : List Char} (undotted : '.' ∉ mark)
    (found : mark <:+: dotted name) : mark <:+: name := by
  obtain ⟨left, right, glued⟩ := found
  obtain ⟨before, after, rfl, isBefore, _⟩ := List.map_eq_append_iff.1 glued.symm
  obtain ⟨first, middle, rfl, _, isMiddle⟩ := List.map_eq_append_iff.1 isBefore
  have plain : '/' ∉ middle := by
    intro slash
    rw [← isMiddle] at undotted
    exact undotted (List.mem_map.2 ⟨'/', slash, rfl⟩)
  have kept : middle = mark := (dotted_of_not_mem plain).symm.trans isMiddle
  exact ⟨first, after, by rw [kept]⟩

theorem isDigit_of_mem_digits {digits : List Char} (numbered : anonymousDigits digits)
    {c : Char} (member : c ∈ digits) : c.isDigit := by
  rw [anonymousDigits, Bool.and_eq_true, List.all_eq_true] at numbered
  exact numbered.2 c member

theorem not_mem_digits {digits : List Char} (numbered : anonymousDigits digits) {c : Char}
    (other : c.isDigit = false) : c ∉ digits := by
  intro member
  have digit := isDigit_of_mem_digits numbered member
  rw [other] at digit
  cases digit

theorem normalizeSynthetic_of_not_mem {name : List Char} (plain : '$' ∉ name) :
    normalizeSynthetic name = name := by
  rw [normalizeSynthetic, Text.cutLast_eq_none_iff.2 plain]

theorem normalizeSynthetic_append {digits : List Char} (numbered : anonymousDigits digits)
    (outer : List Char) :
    normalizeSynthetic (outer ++ '$' :: digits) = outer ++ anonymousMark ++ digits := by
  rw [normalizeSynthetic, Text.cutLast_append (not_mem_digits numbered rfl)]
  exact if_pos numbered

theorem normalizeSynthetic_cases (name : List Char) :
    normalizeSynthetic name = name ∨
      ∃ outer digits, anonymousDigits digits ∧ name = outer ++ '$' :: digits ∧
        normalizeSynthetic name = outer ++ anonymousMark ++ digits := by
  cases cut : Text.cutLast '$' name with
  | none => exact .inl (normalizeSynthetic_of_not_mem (Text.cutLast_eq_none_iff.1 cut))
  | some parts =>
    obtain ⟨outer, suffix⟩ := parts
    by_cases numbered : anonymousDigits suffix
    · have glued := Text.cutLast_eq cut
      exact .inr ⟨outer, suffix, numbered, glued, glued ▸ normalizeSynthetic_append numbered outer⟩
    · left
      simp [normalizeSynthetic, cut, numbered]

theorem normalizeSynthetic_ne_nil {name : List Char} (nonempty : name ≠ []) :
    normalizeSynthetic name ≠ [] := by
  rcases normalizeSynthetic_cases name with same | ⟨outer, digits, _, _, rewritten⟩
  · rwa [same]
  · have marked : anonymousMark ≠ [] := by decide
    simp [rewritten, marked]

theorem mem_normalizeSynthetic {name : List Char} {c : Char}
    (member : c ∈ normalizeSynthetic name) : c ∈ name ∨ c ∈ anonymousMark := by
  rcases normalizeSynthetic_cases name with same | ⟨outer, digits, _, rfl, rewritten⟩
  · exact .inl (same ▸ member)
  · rw [rewritten] at member
    simp only [List.mem_append, List.mem_cons] at member ⊢
    rcases member with (inOuter | inMark) | inDigits
    · exact .inl (.inl inOuter)
    · exact .inr inMark
    · exact .inl (.inr (.inr inDigits))

namespace Primitive

def all : List Primitive :=
  [boolean, char, byte, short, int, float, long, double]

theorem mem_all (p : Primitive) : p ∈ all := by
  cases p <;> decide

end Primitive

namespace TypeDescriptor

@[simp] theorem toList_sourceName (t : TypeDescriptor) : t.sourceName.toList = t.sourceChars :=
  String.toList_ofList

theorem WellFormed.base {t : TypeDescriptor} (wellFormed : t.WellFormed) :
    t.base.WellFormed := by
  induction t with
  | array element ih => exact ih wellFormed.2
  | _ => exact wellFormed

/-- What a source name is made of besides the name of a class. -/
def fixedChars : List Char :=
  sourceChars void ++ Primitive.all.flatMap (fun p => p.keyword.toList) ++ ['[', ']'] ++
    anonymousMark

theorem not_mem_sourceChars {t : TypeDescriptor} {c : Char} (other : c ∉ fixedChars)
    (absent : ∀ name, t.base = object name → c ∉ dotted name) : c ∉ t.sourceChars := by
  simp only [fixedChars, List.mem_append, not_or] at other
  obtain ⟨⟨⟨notInVoid, notInKeywords⟩, notBracket⟩, notInMark⟩ := other
  induction t with
  | void => exact notInVoid
  | primitive p =>
    exact fun member => notInKeywords (List.mem_flatMap.2 ⟨p, p.mem_all, member⟩)
  | object name =>
    intro member
    rcases mem_normalizeSynthetic member with inName | inMark
    · exact absent name rfl inName
    · exact notInMark inMark
  | array element ih =>
    intro member
    rcases List.mem_append.1 member with inElement | bracket
    · exact ih absent inElement
    · exact notBracket bracket

/-- A part of a source name that holds a character from elsewhere is a part of the object
name, unless it reaches over a dot or a bracket. -/
theorem infix_of_infix_sourceChars {t : TypeDescriptor} {mark : List Char} {c : Char}
    (inMark : c ∈ mark) (other : c ∉ fixedChars) (notDigit : c.isDigit = false)
    (undotted : '.' ∉ mark) (unbracketed : '[' ∉ mark) (found : mark <:+: t.sourceChars) :
    ∃ name, t.base = object name ∧ mark <:+: name := by
  simp only [fixedChars, List.mem_append, not_or] at other
  obtain ⟨⟨⟨notInVoid, notInKeywords⟩, notBracket⟩, notInMark⟩ := other
  induction t with
  | void => exact absurd (found.subset inMark) notInVoid
  | primitive p =>
    exact absurd (List.mem_flatMap.2 ⟨p, p.mem_all, found.subset inMark⟩) notInKeywords
  | object name =>
    refine ⟨name, rfl, infix_of_infix_dotted undotted ?_⟩
    rcases normalizeSynthetic_cases (dotted name) with
      same | ⟨outer, digits, numbered, glued, rewritten⟩
    · exact same ▸ found
    · rw [sourceChars, rewritten, List.append_assoc] at found
      rcases Text.infix_or_infix_of_infix_append undotted found with inOuter | behind
      · exact inOuter.trans (glued ▸ (List.prefix_append _ _).isInfix)
      · rcases List.mem_append.1 (behind.subset inMark) with inFixed | inDigits
        · exact absurd (List.mem_cons_of_mem _ inFixed) notInMark
        · exact absurd inDigits (not_mem_digits numbered notDigit)
  | array element ih =>
    rcases Text.infix_or_infix_of_infix_append unbracketed found with inElement | inBracket
    · exact ih inElement
    · exact absurd (List.mem_cons_of_mem _ (inBracket.subset inMark)) notBracket

/-- The marks that end a name in a reference stand in no source name. -/
theorem not_mem_sourceChars_of_wellFormed {t : TypeDescriptor} (wellFormed : t.WellFormed)
    {c : Char} (mark : c ∈ [';', '(', ')']) : c ∉ t.sourceChars := by
  simp only [List.mem_cons, List.not_mem_nil, or_false] at mark
  have other : c ∉ fixedChars ∧ c ≠ '.' := by
    rcases mark with rfl | rfl | rfl <;> decide
  have notInName {name : List Char} (named : isObjectName name) : c ∉ name := by
    obtain ⟨_, semicolon, opening, closing, _⟩ := isObjectName_iff.1 named
    rcases mark with rfl | rfl | rfl <;> assumption
  apply not_mem_sourceChars other.1
  intro name isBase member
  have named := wellFormed.base
  rw [isBase] at named
  rcases mem_dotted member with inside | dot
  · exact notInName named inside
  · exact other.2 dot

theorem semicolon_not_mem_sourceChars {t : TypeDescriptor} (wellFormed : t.WellFormed) :
    ';' ∉ t.sourceChars := not_mem_sourceChars_of_wellFormed wellFormed (by decide)

theorem parenthesis_not_mem_sourceChars {t : TypeDescriptor} (wellFormed : t.WellFormed) :
    '(' ∉ t.sourceChars := not_mem_sourceChars_of_wellFormed wellFormed (by decide)

theorem slash_not_mem_sourceChars (t : TypeDescriptor) : '/' ∉ t.sourceChars :=
  not_mem_sourceChars (by decide) fun name _ => slash_not_mem_dotted name

theorem sourceChars_ne_nil {t : TypeDescriptor} (wellFormed : t.WellFormed) :
    t.sourceChars ≠ [] := by
  cases t with
  | void => decide
  | primitive p => cases p <;> decide
  | object name =>
    have nonempty := (isObjectName_iff.1 wellFormed).1
    exact normalizeSynthetic_ne_nil (by simpa [dotted] using nonempty)
  | array element => simp [sourceChars]

/-- Brackets are written behind the element, which is not empty. -/
theorem head?_sourceChars {t : TypeDescriptor} (wellFormed : t.WellFormed) :
    t.sourceChars.head? ≠ some '[' := by
  induction t with
  | void => decide
  | primitive p => cases p <;> decide
  | object name =>
    intro first
    rcases mem_normalizeSynthetic (List.mem_of_mem_head? first) with inName | inMark
    · rcases mem_dotted inName with inside | dot
      · exact (isObjectName_iff.1 wellFormed).2.2.2.2 inside
      · exact absurd dot (by decide)
    · exact absurd inMark (by decide)
  | array element ih =>
    rw [sourceChars, List.head?_append_of_ne_nil _ (sourceChars_ne_nil wellFormed.2)]
    exact ih wellFormed.2

theorem getLast?_sourceChars {t : TypeDescriptor} (wellFormed : t.WellFormed) :
    t.sourceChars.getLast? ≠ some ';' := fun last =>
  semicolon_not_mem_sourceChars wellFormed (List.mem_of_getLast? last)

end TypeDescriptor

/-- A name is given to the written forms of well-formed types and to no other text. -/
theorem typeNameToSource_eq_ok_iff {descriptor name : String} :
    typeNameToSource descriptor = .ok name ↔
      ∃ t : TypeDescriptor, t.WellFormed ∧ descriptor = String.ofList t.encode ∧
        t.sourceName = name := by
  unfold typeNameToSource
  cases parsed : TypeDescriptor.parse descriptor with
  | ok t =>
    have read := TypeDescriptor.parse_eq_ok_iff.1 parsed
    constructor
    · intro same
      exact ⟨t, read.1, read.2, Except.ok.inj same⟩
    · rintro ⟨u, wellFormed, rfl, rfl⟩
      rw [TypeDescriptor.parse_encode wellFormed] at parsed
      cases parsed
      rfl
  | error why =>
    constructor
    · intro same
      cases same
    · rintro ⟨u, wellFormed, rfl, _⟩
      rw [TypeDescriptor.parse_encode wellFormed] at parsed
      cases parsed

theorem typeNameToSource_encode {t : TypeDescriptor} (wellFormed : t.WellFormed) :
    typeNameToSource (String.ofList t.encode) = .ok t.sourceName :=
  typeNameToSource_eq_ok_iff.2 ⟨t, wellFormed, rfl, rfl⟩

end ClassAtlas
