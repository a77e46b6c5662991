import ClassAtlas.Proofs.Reference.Conversion

/-! Legal member references, and which of them `toSource` takes for binary texts.
The dialect of a text is told by its surface: a slash, or `L` and `;` around it. A
reference starts with `L`, so it has to have a slash or end in `;`, and without
either it is kept as it is although the converters accept it. -/
namespace ClassAtlas

def reserved : List Char := ['.', '/', ';', ':', '[', '(', ')', '<', '>', ' ']

structure IsSegment (s : List Char) : Prop where
  nonempty : s ≠ []
  plain : ∀ c ∈ s, c ∉ reserved

/-- Segments between slashes. A class of the default package has only one. -/
def IsInternalName (name : List Char) : Prop :=
  ∃ segments : List (List Char), segments ≠ [] ∧ (∀ s ∈ segments, IsSegment s) ∧
    name = ['/'].intercalate segments

def IsMemberName (name : List Char) : Prop :=
  IsSegment name ∨ name = "<init>".toList ∨ name = "<clinit>".toList

def TypeDescriptor.Legal : TypeDescriptor → Prop
  | void | primitive _ => True
  | object name => IsInternalName name
  | array element => element ≠ void ∧ element.Legal

inductive MemberType where
  | method (d : MethodDescriptor)
  | field (t : TypeDescriptor)

namespace MemberType

def Legal : MemberType → Prop
  | method d => (∀ p ∈ d.parameters, p ≠ .void ∧ p.Legal) ∧ d.result.Legal
  | field t => t ≠ .void ∧ t.Legal

def encode : MemberType → List Char
  | method d => d.encode
  | field t => ':' :: t.encode

def types : MemberType → List TypeDescriptor
  | method d => d.parameters ++ [d.result]
  | field t => [t]

def last : MemberType → TypeDescriptor
  | method d => d.result
  | field t => t

end MemberType

structure LegalReference where
  owner : List Char
  name : List Char
  type : MemberType
  owner_legal : IsInternalName owner
  name_legal : IsMemberName name
  type_legal : type.Legal

namespace LegalReference

def chars (r : LegalReference) : List Char :=
  (TypeDescriptor.object r.owner).encode ++ memberArrow ++ (r.name ++ r.type.encode)

def text (r : LegalReference) : String := String.ofList r.chars

def convert (r : LegalReference) : Except Failure String :=
  match r.type with
  | .method _ => methodReferenceToSource r.text
  | .field _ => fieldReferenceToSource r.text

def signature (r : LegalReference) : String :=
  match r.type with
  | .method d => (d.symbol r.owner r.name).signature
  | .field t => (t.fieldSymbol r.owner r.name).signature

/-- Some class in it has a package, or the type at its end is an object or an array
of objects. -/
def Recognised (r : LegalReference) : Prop :=
  '/' ∈ r.owner ∨ (∃ t ∈ r.type.types, '/' ∈ t.encode) ∨ ∃ name, r.type.last.base = .object name

end LegalReference

/-! What legal names leave out. -/

theorem mem_internalName {name : List Char} (legal : IsInternalName name) {c : Char}
    (member : c ∈ name) : c ∉ reserved ∨ c = '/' := by
  obtain ⟨segments, _, plain, rfl⟩ := legal
  rcases Text.mem_intercalate member with slash | ⟨segment, listed, inside⟩
  · exact .inr (List.mem_singleton.1 slash)
  · exact .inl ((plain segment listed).plain c inside)

theorem internalName_ne_nil {name : List Char} (legal : IsInternalName name) : name ≠ [] := by
  obtain ⟨segments, nonempty, plain, rfl⟩ := legal
  obtain ⟨first, rest, rfl⟩ := List.exists_cons_of_ne_nil nonempty
  have here := (plain first List.mem_cons_self).nonempty
  cases rest with
  | nil => rwa [List.intercalate_singleton]
  | cons second tail => simp [List.intercalate_cons_cons]

theorem isObjectName_of_internalName {name : List Char} (legal : IsInternalName name) :
    isObjectName name := by
  have absent (c : Char) (isReserved : c ∈ reserved) (notSlash : c ≠ '/') : c ∉ name := by
    intro member
    rcases mem_internalName legal member with plain | slash
    · exact plain isReserved
    · exact notSlash slash
  exact isObjectName_iff.2 ⟨internalName_ne_nil legal, absent ';' (by decide) (by decide),
    absent '(' (by decide) (by decide), absent ')' (by decide) (by decide),
    absent '[' (by decide) (by decide)⟩

theorem memberName_ne_nil {name : List Char} (legal : IsMemberName name) : name ≠ [] := by
  rcases legal with segment | rfl | rfl
  · exact segment.nonempty
  · decide
  · decide

theorem mem_memberName {name : List Char} (legal : IsMemberName name) {c : Char}
    (member : c ∈ name) : c ∉ reserved ∨ c = '<' ∨ c = '>' := by
  have initializer : ∀ d ∈ "<init>".toList, d ∉ reserved ∨ d = '<' ∨ d = '>' := by
    simp [reserved]
  have classInitializer : ∀ d ∈ "<clinit>".toList, d ∉ reserved ∨ d = '<' ∨ d = '>' := by
    simp [reserved]
  rcases legal with segment | rfl | rfl
  · exact .inl (segment.plain c member)
  · exact initializer c member
  · exact classInitializer c member

theorem not_mem_memberName {name : List Char} (legal : IsMemberName name) {c : Char}
    (isReserved : c ∈ reserved) (notAngle : c ≠ '<' ∧ c ≠ '>') : c ∉ name := by
  intro member
  rcases mem_memberName legal member with plain | opening | closing
  · exact plain isReserved
  · exact notAngle.1 opening
  · exact notAngle.2 closing

theorem TypeDescriptor.Legal.wellFormed {t : TypeDescriptor} (legal : t.Legal) :
    t.WellFormed := by
  induction t with
  | void => trivial
  | primitive p => trivial
  | object name => exact isObjectName_of_internalName legal
  | array element ih => exact ⟨legal.1, ih legal.2⟩

/-! How a written type ends, and what it leaves out. -/

namespace TypeDescriptor

theorem getLast?_encode {t : TypeDescriptor} :
    t.encode.getLast? = some ';' ↔ ∃ name, t.base = .object name := by
  induction t with
  | void => simp [encode, base]
  | primitive p => cases p <;> simp [encode, base, Primitive.code]
  | object name => simp [encode, base, List.getLast?_cons]
  | array element ih =>
    rw [encode, base, ← ih]
    obtain ⟨c, rest, written⟩ := List.exists_cons_of_ne_nil element.encode_ne_nil
    rw [written, List.getLast?_cons_cons]

theorem parenthesis_not_mem_encode {t : TypeDescriptor} (wellFormed : t.WellFormed) :
    '(' ∉ t.encode := by
  induction t with
  | void => decide
  | primitive p => cases p <;> decide
  | object name =>
    have absent := (isObjectName_iff.1 wellFormed).2.2.1
    simp [encode, absent]
  | array element ih => simp [encode, ih wellFormed.2]

end TypeDescriptor

namespace MemberType

theorem getLast?_encode (type : MemberType) : type.encode.getLast? = type.last.encode.getLast? := by
  cases type with
  | method d =>
    obtain ⟨c, rest, written⟩ := List.exists_cons_of_ne_nil d.result.encode_ne_nil
    simp [encode, last, MethodDescriptor.encode, written, List.getLast?_cons]
  | field t =>
    obtain ⟨c, rest, written⟩ := List.exists_cons_of_ne_nil t.encode_ne_nil
    simp [encode, last, written, List.getLast?_cons]

theorem slash_mem_encode {type : MemberType} :
    '/' ∈ type.encode ↔ ∃ t ∈ type.types, '/' ∈ t.encode := by
  cases type with
  | method d =>
    simp only [encode, types, MethodDescriptor.encode, List.mem_append, List.mem_cons,
      List.mem_flatMap]
    grind
  | field t => simp [encode, types]

end MemberType

namespace LegalReference

theorem isBinary_chars (r : LegalReference) : isBinary r.chars ↔ r.Recognised := by
  have starts : r.chars.head? = some 'L' := rfl
  have notInName : '/' ∉ r.name := not_mem_memberName r.name_legal (by decide) (by decide)
  have slash : '/' ∈ r.chars ↔ '/' ∈ r.owner ∨ ∃ t ∈ r.type.types, '/' ∈ t.encode := by
    rw [← MemberType.slash_mem_encode]
    simp [chars, TypeDescriptor.encode, memberArrow, notInName]
  have ends : r.chars.getLast? = some ';' ↔ ∃ name, r.type.last.base = .object name := by
    rw [← TypeDescriptor.getLast?_encode, ← MemberType.getLast?_encode]
    have nonempty : r.type.encode ≠ [] := by
      cases r.type <;> simp [MemberType.encode, MethodDescriptor.encode]
    obtain ⟨c, rest, written⟩ := List.exists_cons_of_ne_nil nonempty
    simp [chars, written, List.getLast?_cons]
  unfold Recognised
  rw [← or_assoc, ← slash, ← ends]
  simp [isBinary, starts]

theorem kindOf_chars (r : LegalReference) :
    kindOf .binary r.chars =
      match r.type with
      | .method _ => .method
      | .field _ => .field := by
  -- the arrow after the owner is the first one
  have noArrow : '>' ∉ (TypeDescriptor.object r.owner).encode := by
    have notInOwner : '>' ∉ r.owner := by
      intro member
      rcases mem_internalName r.owner_legal member with plain | slash
      · exact plain (by decide)
      · exact absurd slash (by decide)
    simp [TypeDescriptor.encode, notInOwner]
  have cut := Text.cutAt_pair noArrow (r.name ++ r.type.encode) (by decide : '-' ≠ '>')
  have noParenthesis : '(' ∉ r.name := not_mem_memberName r.name_legal (by decide) (by decide)
  have glued : r.chars =
      (TypeDescriptor.object r.owner).encode ++ '-' :: '>' :: (r.name ++ r.type.encode) := by
    simp [chars, memberArrow]
  rw [kindOf, glued, memberArrow, cut]
  have legal := r.type_legal
  cases kind : r.type with
  | method d => simp [MemberType.encode, MethodDescriptor.encode]
  | field t =>
    rw [kind] at legal
    have plain := TypeDescriptor.parenthesis_not_mem_encode legal.2.wellFormed
    simp [MemberType.encode, noParenthesis, plain]

theorem convert_eq (r : LegalReference) : r.convert = .ok r.signature := by
  have ownerOk := isObjectName_of_internalName r.owner_legal
  have nameOk := memberName_ne_nil r.name_legal
  have legal := r.type_legal
  unfold convert signature text chars
  cases kind : r.type with
  | method d =>
    rw [kind] at legal
    have wellFormed : d.WellFormed :=
      ⟨fun p member => ⟨(legal.1 p member).1, (legal.1 p member).2.wellFormed⟩,
        legal.2.wellFormed⟩
    exact methodReferenceToSource_encode ownerOk nameOk
      (not_mem_memberName r.name_legal (by decide) (by decide)) wellFormed
  | field t =>
    rw [kind] at legal
    exact fieldReferenceToSource_encode ownerOk nameOk
      (not_mem_memberName r.name_legal (by decide) (by decide)) legal.2.wellFormed

theorem toSource_text (r : LegalReference) :
    toSource r.text = if isBinary r.chars then r.convert else .ok r.text := by
  have nonempty : r.chars ≠ [] := by simp [chars, TypeDescriptor.encode]
  have kind := r.kindOf_chars
  unfold toSource Signature.infer classify text
  simp only [String.toList_ofList, List.isEmpty_iff, nonempty, if_false, bind, Except.bind, pure,
    Except.pure]
  by_cases binary : isBinary r.chars
  · simp only [binary, if_true, kind, convert, text]
    cases r.type <;> rfl
  · simp only [binary]
    rfl

theorem text_ne_signature (r : LegalReference) : r.text ≠ r.signature := by
  -- the semicolon after the owner stands in no signature
  have notInName : ';' ∉ r.name := not_mem_memberName r.name_legal (by decide) (by decide)
  have ownerOk := isObjectName_of_internalName r.owner_legal
  have notInOwner : ';' ∉ (TypeDescriptor.object r.owner).sourceChars :=
    TypeDescriptor.semicolon_not_mem_sourceChars ownerOk
  have legal := r.type_legal
  have present : ';' ∈ r.text.toList := by simp [text, chars, TypeDescriptor.encode]
  intro same
  rw [same, signature] at present
  revert present
  cases kind : r.type with
  | method d =>
    rw [kind] at legal
    have notInResult := TypeDescriptor.semicolon_not_mem_sourceChars legal.2.wellFormed
    have notInParameters :
        ';' ∉ [',', ' '].intercalate (d.parameters.map TypeDescriptor.sourceChars) :=
      Text.not_mem_intercalate (by decide) (List.forall_mem_map.2 fun p isParameter =>
        TypeDescriptor.semicolon_not_mem_sourceChars (legal.1 p isParameter).2.wellFormed)
    simp [MethodSymbol.toList_signature, MethodDescriptor.symbol, Function.comp_def, notInName,
      notInOwner, notInParameters, notInResult]
  | field t =>
    rw [kind] at legal
    have notInType := TypeDescriptor.semicolon_not_mem_sourceChars legal.2.wellFormed
    simp [FieldSymbol.toList_signature, TypeDescriptor.fieldSymbol, fieldMark, notInName,
      notInOwner, notInType]

/-- Every legal reference converts to the signature of its member. `toSource` gives
the same if and only if it recognises the reference. -/
theorem toSource_text_iff (r : LegalReference) :
    r.convert = .ok r.signature ∧ (toSource r.text = r.convert ↔ r.Recognised) := by
  refine ⟨r.convert_eq, ?_⟩
  rw [toSource_text, ← r.isBinary_chars]
  by_cases binary : isBinary r.chars
  · simp [binary]
  · have kept : Except.ok r.text ≠ r.convert := by
      rw [r.convert_eq]
      intro same
      exact r.text_ne_signature (Except.ok.inj same)
    simp [binary, kept]

/-- A field of the default package, with nothing in it that shows its dialect. -/
def countOfFoo : LegalReference where
  owner := "Foo".toList
  name := "count".toList
  type := .field (.primitive .int)
  owner_legal := by
    refine ⟨["Foo".toList], by decide, ?_, rfl⟩
    rw [List.forall_mem_singleton]
    exact ⟨by decide, by simp [reserved]⟩
  name_legal := .inl ⟨by decide, by simp [reserved]⟩
  type_legal := ⟨by decide, trivial⟩

theorem toSource_countOfFoo :
    countOfFoo.text = "LFoo;->count:I" ∧
      toSource "LFoo;->count:I" = .ok "LFoo;->count:I" ∧
      fieldReferenceToSource "LFoo;->count:I" = .ok "Foo.count :int" := by
  have text : countOfFoo.text = "LFoo;->count:I" := rfl
  refine ⟨text, rfl, ?_⟩
  rw [← text]
  exact countOfFoo.convert_eq

end LegalReference

end ClassAtlas
