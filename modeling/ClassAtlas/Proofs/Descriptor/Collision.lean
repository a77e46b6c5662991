import ClassAtlas.Proofs.Descriptor.SourceName

/-! Which types share a source name. The brackets tell the depth of an array, so only types of
one depth do. Below the brackets a name is shared by a numbered nested class and the class that
is named as its source name, and by a type with a keyword and the class that is named as that
keyword; object names that are equal once their slashes are dots share theirs as well. -/
namespace ClassAtlas

/-! Names with dots. -/

theorem normalizeSynthetic_of_marked {digits : List Char} (numbered : anonymousDigits digits)
    (outer : List Char) :
    normalizeSynthetic (outer ++ anonymousMark ++ digits) = outer ++ anonymousMark ++ digits := by
  have dotted : '.' ∈ anonymousMark := by decide
  have undollared : '$' ∉ anonymousMark := by decide
  rcases normalizeSynthetic_cases (outer ++ anonymousMark ++ digits) with
    kept | ⟨front, suffix, suffixNumbered, glued, _⟩
  · exact kept
  · -- A last `$` would stand in the mark or its digits, or have the mark behind it.
    rw [List.append_assoc] at glued
    rcases List.append_eq_append_iff.1 glued with ⟨more, _, tail⟩ | ⟨more, _, tail⟩
    · have dollar : '$' ∈ anonymousMark ++ digits :=
        tail ▸ List.mem_append_right more List.mem_cons_self
      rcases List.mem_append.1 dollar with inMark | inDigits
      · exact absurd inMark undollared
      · exact absurd inDigits (not_mem_digits numbered rfl)
    · have dot : '.' ∈ '$' :: suffix :=
        tail ▸ List.mem_append_right more (List.mem_append_left digits dotted)
      rcases List.mem_cons.1 dot with same | inSuffix
      · exact absurd same (by decide)
      · exact absurd inSuffix (not_mem_digits suffixNumbered rfl)

theorem normalizeSynthetic_idem (name : List Char) :
    normalizeSynthetic (normalizeSynthetic name) = normalizeSynthetic name := by
  rcases normalizeSynthetic_cases name with kept | ⟨outer, digits, numbered, _, rewritten⟩
  · rw [kept, kept]
  · rw [rewritten, normalizeSynthetic_of_marked numbered]

/-- The number of an anonymous class starts behind the last letter of the mark. -/
theorem marked_inj {outer other digits others : List Char} (numbered : anonymousDigits digits)
    (otherNumbered : anonymousDigits others)
    (same : outer ++ anonymousMark ++ digits = other ++ anonymousMark ++ others) :
    outer = other ∧ digits = others := by
  have lastLetter : anonymousMark = anonymousMark.dropLast ++ ['s'] := by decide
  have split (front suffix : List Char) : front ++ anonymousMark ++ suffix =
      front ++ anonymousMark.dropLast ++ 's' :: suffix := by
    rw [lastLetter]
    simp
  rw [split, split] at same
  obtain ⟨front, suffix⟩ := Text.append_mark_inj_last (not_mem_digits numbered rfl)
    (not_mem_digits otherNumbered rfl) same
  exact ⟨List.append_cancel_right front, suffix⟩

/-- A numbered nested class, and the class that is named as its source name. -/
def NamesNumbered (name other : List Char) : Prop :=
  ∃ outer digits, anonymousDigits digits ∧ name = outer ++ '$' :: digits ∧
    other = outer ++ anonymousMark ++ digits

theorem NamesNumbered.normalize_eq {name other : List Char} (names : NamesNumbered name other) :
    normalizeSynthetic name = normalizeSynthetic other := by
  obtain ⟨outer, digits, numbered, rfl, rfl⟩ := names
  rw [normalizeSynthetic_append numbered, normalizeSynthetic_of_marked numbered]

theorem normalizeSynthetic_eq_iff {name other : List Char} :
    normalizeSynthetic name = normalizeSynthetic other ↔
      name = other ∨ NamesNumbered name other ∨ NamesNumbered other name := by
  constructor
  · intro same
    rcases normalizeSynthetic_cases name with kept | ⟨outer, digits, numbered, glued, rewritten⟩
    · rcases normalizeSynthetic_cases other with
        otherKept | ⟨outer, digits, numbered, glued, rewritten⟩
      · exact .inl (kept.symm.trans (same.trans otherKept))
      · exact .inr (.inr ⟨outer, digits, numbered, glued, kept.symm.trans (same.trans rewritten)⟩)
    · rcases normalizeSynthetic_cases other with
        otherKept | ⟨front, suffix, otherNumbered, otherGlued, otherRewritten⟩
      · exact .inr (.inl
          ⟨outer, digits, numbered, glued, otherKept.symm.trans (same.symm.trans rewritten)⟩)
      · obtain ⟨rfl, rfl⟩ := marked_inj numbered otherNumbered
          (rewritten.symm.trans (same.trans otherRewritten))
        exact .inl (glued.trans otherGlued.symm)
  · rintro (rfl | names | names)
    · rfl
    · exact names.normalize_eq
    · exact names.normalize_eq.symm

/-! Types without brackets. -/

namespace TypeDescriptor

/-- The types whose source name is a keyword. -/
def keywordTypes : List TypeDescriptor :=
  void :: Primitive.all.map primitive

/-- Types without brackets that share a source name. -/
inductive BasesAlike : TypeDescriptor → TypeDescriptor → Prop where
  | same (t : TypeDescriptor) : BasesAlike t t
  | dotted {name other : List Char} (same : dotted name = dotted other) :
      BasesAlike (object name) (object other)
  | numbered {name other : List Char} (names : NamesNumbered (dotted name) (dotted other)) :
      BasesAlike (object name) (object other)
  | named {name other : List Char} (names : NamesNumbered (dotted other) (dotted name)) :
      BasesAlike (object name) (object other)
  | keyword {t : TypeDescriptor} (listed : t ∈ keywordTypes) :
      BasesAlike t (object t.sourceChars)
  | spelled {t : TypeDescriptor} (listed : t ∈ keywordTypes) :
      BasesAlike (object t.sourceChars) t

theorem base_cases (t : TypeDescriptor) : t.base ∈ keywordTypes ∨ ∃ name, t.base = object name := by
  induction t with
  | void => exact .inl List.mem_cons_self
  | primitive p => exact .inl (List.mem_cons_of_mem _ (List.mem_map_of_mem p.mem_all))
  | object name => exact .inr ⟨name, rfl⟩
  | array element ih => exact ih

theorem keyword_inj : ∀ t ∈ keywordTypes, ∀ u ∈ keywordTypes, t.sourceChars = u.sourceChars →
    t = u := by
  decide

theorem keyword_plain : ∀ t ∈ keywordTypes,
    '.' ∉ t.sourceChars ∧ '/' ∉ t.sourceChars ∧ '$' ∉ t.sourceChars := by
  decide

theorem sourceChars_object_eq_keyword_iff {t : TypeDescriptor} (listed : t ∈ keywordTypes)
    {name : List Char} : (object name).sourceChars = t.sourceChars ↔ name = t.sourceChars := by
  obtain ⟨undotted, unslashed, undollared⟩ := keyword_plain t listed
  constructor
  · intro same
    rcases normalizeSynthetic_cases (dotted name) with kept | ⟨outer, digits, _, _, rewritten⟩
    · have dotless : dotted name = t.sourceChars := kept.symm.trans same
      have plain : '/' ∉ name := by
        intro slash
        rw [← dotless] at undotted
        exact undotted (List.mem_map.2 ⟨'/', slash, rfl⟩)
      rwa [dotted_of_not_mem plain] at dotless
    · have dot : '.' ∈ t.sourceChars := by
        rw [← same, sourceChars, rewritten]
        exact List.mem_append_left _ (List.mem_append_right _ (by decide))
      exact absurd dot undotted
  · rintro rfl
    rw [sourceChars, dotted_of_not_mem unslashed, normalizeSynthetic_of_not_mem undollared]

theorem sourceChars_base_eq_iff {t u : TypeDescriptor} :
    t.base.sourceChars = u.base.sourceChars ↔ BasesAlike t.base u.base := by
  constructor
  · intro same
    rcases base_cases t with listed | ⟨name, isName⟩
    · rcases base_cases u with otherListed | ⟨other, isOther⟩
      · rw [keyword_inj _ listed _ otherListed same]
        exact .same _
      · rw [isOther] at same ⊢
        rw [(sourceChars_object_eq_keyword_iff listed).1 same.symm]
        exact .keyword listed
    · rcases base_cases u with otherListed | ⟨other, isOther⟩
      · rw [isName] at same ⊢
        rw [(sourceChars_object_eq_keyword_iff otherListed).1 same]
        exact .spelled otherListed
      · rw [isName, isOther] at same ⊢
        rcases normalizeSynthetic_eq_iff.1 same with dotted | numbered | named
        · exact .dotted dotted
        · exact .numbered numbered
        · exact .named named
  · intro alike
    generalize t.base = first at alike
    generalize u.base = second at alike
    cases alike with
    | same => rfl
    | dotted same => exact congrArg normalizeSynthetic same
    | numbered names => exact names.normalize_eq
    | named names => exact names.normalize_eq.symm
    | keyword listed => exact ((sourceChars_object_eq_keyword_iff listed).2 rfl).symm
    | spelled listed => exact (sourceChars_object_eq_keyword_iff listed).2 rfl

/-! Arrays. -/

def brackets (depth : Nat) : List Char :=
  (List.replicate depth ['[', ']']).flatten

theorem brackets_succ (depth : Nat) : brackets (depth + 1) = brackets depth ++ ['[', ']'] := by
  simp [brackets, List.replicate_succ']

theorem sourceChars_eq (t : TypeDescriptor) :
    t.sourceChars = t.base.sourceChars ++ brackets t.depth := by
  induction t with
  | array element ih => rw [sourceChars, ih, base, depth, brackets_succ, List.append_assoc]
  | _ => exact (List.append_nil _).symm

/-- No other part of a source name holds an opening bracket. -/
theorem count_sourceChars {t : TypeDescriptor} (wellFormed : t.WellFormed) :
    t.sourceChars.count '[' = t.depth := by
  induction t with
  | void => rfl
  | primitive p => cases p <;> decide
  | object name =>
    apply List.count_eq_zero.2
    intro bracket
    rcases mem_normalizeSynthetic bracket with inName | inMark
    · rcases mem_dotted inName with inside | dot
      · exact (isObjectName_iff.1 wellFormed).2.2.2.2 inside
      · exact absurd dot (by decide)
    · exact absurd inMark (by decide)
  | array element ih =>
    rw [sourceChars, List.count_append, ih wellFormed.2]
    rfl

theorem sourceName_eq_iff {t u : TypeDescriptor} (wellFormed : t.WellFormed)
    (otherWellFormed : u.WellFormed) :
    t.sourceName = u.sourceName ↔ t.depth = u.depth ∧ BasesAlike t.base u.base := by
  rw [← String.toList_inj, toList_sourceName, toList_sourceName, ← sourceChars_base_eq_iff]
  constructor
  · intro same
    have depths : t.depth = u.depth := by
      rw [← count_sourceChars wellFormed, same, count_sourceChars otherWellFormed]
    rw [sourceChars_eq t, sourceChars_eq u, depths] at same
    exact ⟨depths, List.append_cancel_right same⟩
  · rintro ⟨depths, bases⟩
    rw [sourceChars_eq t, sourceChars_eq u, depths, bases]

end TypeDescriptor

theorem typeNameToSource_of_parse {descriptor : String} {t : TypeDescriptor}
    (read : TypeDescriptor.parse descriptor = .ok t) :
    typeNameToSource descriptor = .ok t.sourceName := by
  rw [typeNameToSource, read]
  rfl

/-- Two descriptors have one source name exactly if their types have one depth and are alike
below the brackets. A source name is the source name of itself. -/
theorem typeNameToSource_eq_iff {first second : String} {t u : TypeDescriptor}
    (read : TypeDescriptor.parse first = .ok t) (alsoRead : TypeDescriptor.parse second = .ok u) :
    (typeNameToSource first = typeNameToSource second ↔
        t.depth = u.depth ∧ TypeDescriptor.BasesAlike t.base u.base) ∧
      (t.depth ≠ u.depth → typeNameToSource first ≠ typeNameToSource second) ∧
        ∀ name, normalizeSynthetic (normalizeSynthetic name) = normalizeSynthetic name := by
  have alike : typeNameToSource first = typeNameToSource second ↔
      t.depth = u.depth ∧ TypeDescriptor.BasesAlike t.base u.base := by
    rw [typeNameToSource_of_parse read, typeNameToSource_of_parse alsoRead, Except.ok.injEq,
      TypeDescriptor.sourceName_eq_iff (TypeDescriptor.parse_eq_ok_iff.1 read).1
        (TypeDescriptor.parse_eq_ok_iff.1 alsoRead).1]
  exact ⟨alike, fun differ same => differ (alike.1 same).1, normalizeSynthetic_idem⟩

/-- An array of a numbered class shares its name with an array of the class that is named as
the first is named in source texts. -/
theorem typeNameToSource_eq_anonymous :
    TypeDescriptor.parse "[La/Outer$3;" = .ok (.array (.object "a/Outer$3".toList)) ∧
      TypeDescriptor.parse "[La/Outer.AnonymousClass3;" =
        .ok (.array (.object "a/Outer.AnonymousClass3".toList)) ∧
        typeNameToSource "[La/Outer$3;" = typeNameToSource "[La/Outer.AnonymousClass3;" := by
  have read : TypeDescriptor.parse "[La/Outer$3;" = .ok (.array (.object "a/Outer$3".toList)) := rfl
  have alsoRead : TypeDescriptor.parse "[La/Outer.AnonymousClass3;" =
      .ok (.array (.object "a/Outer.AnonymousClass3".toList)) := rfl
  have numbered : NamesNumbered (dotted "a/Outer$3".toList)
      (dotted "a/Outer.AnonymousClass3".toList) :=
    ⟨"a.Outer".toList, "3".toList, by decide, by decide, by decide⟩
  exact ⟨read, alsoRead, (typeNameToSource_eq_iff read alsoRead).1.2 ⟨rfl, .numbered numbered⟩⟩

end ClassAtlas
