import ClassAtlas.Proofs.Reference.Rendering
import Mathlib.Data.List.Forall2

/-! Signatures tell members apart, overloads included. A converted reference can be taken apart
again into owner, name and types: the head ends at the first parenthesis or at the mark of a
field, the name starts behind the last dot of the head, and commas part the parameters. What is
left open is only which types share a source name. -/
namespace ClassAtlas

/-- The references that two texts were written from are alike exactly if the texts are converted
alike, provided that both can be taken apart. -/
def Identifies {α : Type} (convert : String → Except Failure String) (text : α → String)
    (Separable : α → Prop) (Alike : α → α → Prop) : Prop :=
  ∀ first second signature other, convert first = .ok signature → convert second = .ok other →
    ∃ r s, text r = first ∧ text s = second ∧ (Alike r s → signature = other) ∧
      (Separable r → Separable s → signature = other → Alike r s)

theorem identifies_of_signature {α : Type} {convert : String → Except Failure String}
    {text signature : α → String} {Separable : α → Prop} {Alike : α → α → Prop}
    (written : ∀ {reference converted}, convert reference = .ok converted → ∃ r, text r = reference)
    (renders : ∀ r, convert (text r) = .ok (signature r))
    (joins : ∀ {r s}, Alike r s → signature r = signature s)
    (splits : ∀ {r s}, Separable r → Separable s → signature r = signature s → Alike r s) :
    Identifies convert text Separable Alike := by
  intro first second converted other accepted alsoAccepted
  obtain ⟨r, rfl⟩ := written accepted
  obtain ⟨s, rfl⟩ := written alsoAccepted
  have isSignature : signature r = converted := Except.ok.inj ((renders r).symm.trans accepted)
  have isOther : signature s = other := Except.ok.inj ((renders s).symm.trans alsoAccepted)
  rw [← isSignature, ← isOther]
  exact ⟨r, s, rfl, rfl, joins, splits⟩

/-! Methods. -/

namespace MethodReference
variable {r s : MethodReference}

/-- The name has no dot and no parameter is of a class with a comma in its name. -/
structure Separable (r : MethodReference) : Prop where
  undotted : '.' ∉ r.name
  commaless : ∀ p ∈ r.descriptor.parameters, ∀ name, p.base = .object name → ',' ∉ name

/-- One overload of one method, up to types with the same source name. -/
structure SameOverload (r s : MethodReference) : Prop where
  owner : (TypeDescriptor.object r.owner).sourceName = (TypeDescriptor.object s.owner).sourceName
  name : r.name = s.name
  count : r.descriptor.parameters.length = s.descriptor.parameters.length
  parameters : List.Forall₂ (fun p q => p.sourceName = q.sourceName)
    r.descriptor.parameters s.descriptor.parameters
  result : r.descriptor.result.sourceName = s.descriptor.result.sourceName

/-- What stands between the parentheses. -/
def parameterChars (r : MethodReference) : List Char :=
  [',', ' '].intercalate (r.descriptor.parameters.map TypeDescriptor.sourceChars)

theorem toList_signature (r : MethodReference) :
    r.symbol.signature.toList =
      (TypeDescriptor.object r.owner).sourceChars ++ '.' :: r.name ++
        '(' :: (r.parameterChars ++ ')' :: ':' :: r.descriptor.result.sourceChars) := by
  simp [MethodSymbol.toList_signature, symbol, MethodDescriptor.symbol, parameterChars,
    Function.comp_def]

theorem parenthesis_not_mem_head (r : MethodReference) :
    '(' ∉ (TypeDescriptor.object r.owner).sourceChars ++ '.' :: r.name := by
  have ownerOk : (TypeDescriptor.object r.owner).WellFormed := r.owner_ok
  simp [TypeDescriptor.parenthesis_not_mem_sourceChars ownerOk, r.name_plain]

theorem parenthesis_not_mem_parameterChars (r : MethodReference) : ')' ∉ r.parameterChars := by
  apply Text.not_mem_intercalate (by decide)
  rw [List.forall_mem_map]
  exact fun p listed =>
    TypeDescriptor.not_mem_sourceChars_of_wellFormed (r.wellFormed.1 p listed).2 (by decide)

theorem Separable.comma_not_mem (separable : r.Separable) :
    ∀ piece ∈ r.descriptor.parameters.map TypeDescriptor.sourceChars, piece ≠ [] ∧ ',' ∉ piece := by
  rw [List.forall_mem_map]
  intro p listed
  refine ⟨TypeDescriptor.sourceChars_ne_nil (r.wellFormed.1 p listed).2, ?_⟩
  apply TypeDescriptor.not_mem_sourceChars (by decide)
  intro name isBase comma
  rcases mem_dotted comma with inside | dot
  · exact separable.commaless p listed name isBase inside
  · exact absurd dot (by decide)

theorem sourceName_forall₂_iff {parameters others : List TypeDescriptor} :
    List.Forall₂ (fun p q => p.sourceName = q.sourceName) parameters others ↔
      parameters.map TypeDescriptor.sourceChars = others.map TypeDescriptor.sourceChars := by
  rw [← List.forall₂_eq_eq_eq, List.forall₂_map_left_iff, List.forall₂_map_right_iff]
  simp only [TypeDescriptor.sourceName, String.ofList_inj]

theorem sameOverload_of_signature_eq (separable : r.Separable) (otherSeparable : s.Separable)
    (same : r.symbol.signature = s.symbol.signature) : SameOverload r s := by
  rw [← String.toList_inj, toList_signature, toList_signature] at same
  obtain ⟨heads, behind⟩ := Text.append_mark_inj r.parenthesis_not_mem_head
    s.parenthesis_not_mem_head same
  obtain ⟨owners, names⟩ :=
    Text.append_mark_inj_last separable.undotted otherSeparable.undotted heads
  obtain ⟨inside, results⟩ := Text.append_mark_inj r.parenthesis_not_mem_parameterChars
    s.parenthesis_not_mem_parameterChars behind
  have parameters := sourceName_forall₂_iff.2 (Text.intercalate_inj separable.comma_not_mem
    otherSeparable.comma_not_mem inside)
  exact ⟨congrArg String.ofList owners, names, parameters.length_eq, parameters,
    congrArg String.ofList (List.cons.inj results).2⟩

theorem SameOverload.signature_eq (same : SameOverload r s) :
    r.symbol.signature = s.symbol.signature := by
  have owners := String.ofList_inj.1 same.owner
  have results := String.ofList_inj.1 same.result
  rw [← String.toList_inj, toList_signature, toList_signature, parameterChars, parameterChars,
    sourceName_forall₂_iff.1 same.parameters, owners, same.name, results]

end MethodReference

/-! Fields. -/

namespace FieldReference
variable {r s : FieldReference}

/-- The name has no dot and the owner does not hold the mark of a field. -/
structure Separable (r : FieldReference) : Prop where
  undotted : '.' ∉ r.name
  unmarked : ¬ fieldMark <:+: r.owner

/-- One field, up to types with the same source name. -/
structure SameField (r s : FieldReference) : Prop where
  owner : (TypeDescriptor.object r.owner).sourceName = (TypeDescriptor.object s.owner).sourceName
  name : r.name = s.name
  type : r.type.sourceName = s.type.sourceName

theorem toList_signature (r : FieldReference) :
    r.symbol.signature.toList =
      (TypeDescriptor.object r.owner).sourceChars ++ '.' :: r.name ++
        ' ' :: ':' :: r.type.sourceChars := by
  simp [FieldSymbol.toList_signature, symbol, TypeDescriptor.fieldSymbol, fieldMark]

theorem Separable.cutAt_signature (separable : r.Separable) :
    Text.cutAt fieldMark r.symbol.signature.toList =
      some ((TypeDescriptor.object r.owner).sourceChars ++ '.' :: r.name, r.type.sourceChars) := by
  rw [toList_signature]
  apply Text.cutAt_pair_of_not_infix _ _ (by decide)
  intro found
  rcases Text.infix_or_infix_of_infix_append (by decide) found with inOwner | inName
  · obtain ⟨name, isOwner, inside⟩ := TypeDescriptor.object_of_fieldMark_infix inOwner
    cases isOwner
    exact separable.unmarked inside
  · exact r.name_plain (inName.subset (by decide))

theorem sameField_of_signature_eq (separable : r.Separable) (otherSeparable : s.Separable)
    (same : r.symbol.signature = s.symbol.signature) : SameField r s := by
  have cut := separable.cutAt_signature
  rw [same, otherSeparable.cutAt_signature] at cut
  obtain ⟨heads, types⟩ := Prod.mk.inj (Option.some.inj cut)
  obtain ⟨owners, names⟩ :=
    Text.append_mark_inj_last otherSeparable.undotted separable.undotted heads
  exact ⟨congrArg String.ofList owners.symm, names.symm, congrArg String.ofList types.symm⟩

theorem SameField.signature_eq (same : SameField r s) :
    r.symbol.signature = s.symbol.signature := by
  have owners := String.ofList_inj.1 same.owner
  have types := String.ofList_inj.1 same.type
  rw [← String.toList_inj, toList_signature, toList_signature, owners, same.name, types]

end FieldReference

/-! A method and a field of a numbered class and of the class that is named as its source name. -/

def MethodReference.callOf (owner : List Char) (owner_ok : isObjectName owner) : MethodReference where
  owner := owner
  name := "call".toList
  descriptor := ⟨[.primitive .int, .array (.object "b/B".toList)], .void⟩
  owner_ok := owner_ok
  name_ne_nil := by decide
  name_plain := by decide
  wellFormed := by decide

def FieldReference.countOf (owner : List Char) (owner_ok : isObjectName owner) : FieldReference where
  owner := owner
  name := "count".toList
  type := .array (.primitive .int)
  owner_ok := owner_ok
  name_ne_nil := by decide
  name_plain := by decide
  wellFormed := by decide

theorem MethodReference.separable_callOf {owner : List Char} (owner_ok : isObjectName owner) :
    (MethodReference.callOf owner owner_ok).Separable where
  undotted := show '.' ∉ "call".toList by decide
  commaless := by
    intro p listed name isBase
    simp only [callOf, List.mem_cons, List.not_mem_nil, or_false] at listed
    rcases listed with rfl | rfl <;> cases isBase
    decide

theorem FieldReference.separable_countOf {owner : List Char} (owner_ok : isObjectName owner)
    (plain : ':' ∉ owner) : (FieldReference.countOf owner owner_ok).Separable where
  undotted := show '.' ∉ "count".toList by decide
  unmarked found := plain (found.subset (by decide))

/-- Both kinds of signatures identify their members. -/
theorem signatures_identify :
    Identifies methodReferenceToSource MethodReference.text MethodReference.Separable
        MethodReference.SameOverload ∧
      Identifies fieldReferenceToSource FieldReference.text FieldReference.Separable
        FieldReference.SameField :=
  ⟨identifies_of_signature MethodReference.exists_of_methodReferenceToSource
      MethodReference.methodReferenceToSource_text MethodReference.SameOverload.signature_eq
      MethodReference.sameOverload_of_signature_eq,
    identifies_of_signature FieldReference.exists_of_fieldReferenceToSource
      FieldReference.fieldReferenceToSource_text FieldReference.SameField.signature_eq
      FieldReference.sameField_of_signature_eq⟩

theorem signatures_identify_anonymous :
    methodReferenceToSource "La/Outer$3;->call(I[Lb/B;)V" =
        .ok "a.Outer.AnonymousClass3.call(int, b.B[]):void" ∧
      methodReferenceToSource "La/Outer.AnonymousClass3;->call(I[Lb/B;)V" =
        .ok "a.Outer.AnonymousClass3.call(int, b.B[]):void" ∧
      (∃ r s : MethodReference, r.text = "La/Outer$3;->call(I[Lb/B;)V" ∧
        s.text = "La/Outer.AnonymousClass3;->call(I[Lb/B;)V" ∧ r.SameOverload s) ∧
      fieldReferenceToSource "La/Outer$3;->count:[I" =
        .ok "a.Outer.AnonymousClass3.count :int[]" ∧
      fieldReferenceToSource "La/Outer.AnonymousClass3;->count:[I" =
        .ok "a.Outer.AnonymousClass3.count :int[]" ∧
      ∃ r s : FieldReference, r.text = "La/Outer$3;->count:[I" ∧
        s.text = "La/Outer.AnonymousClass3;->count:[I" ∧ r.SameField s := by
  have method : methodReferenceToSource "La/Outer$3;->call(I[Lb/B;)V" =
      .ok "a.Outer.AnonymousClass3.call(int, b.B[]):void" :=
    (MethodReference.callOf "a/Outer$3".toList (by decide)).methodReferenceToSource_text
  have alsoMethod : methodReferenceToSource "La/Outer.AnonymousClass3;->call(I[Lb/B;)V" =
      .ok "a.Outer.AnonymousClass3.call(int, b.B[]):void" :=
    (MethodReference.callOf "a/Outer.AnonymousClass3".toList
      (by decide)).methodReferenceToSource_text
  have field : fieldReferenceToSource "La/Outer$3;->count:[I" =
      .ok "a.Outer.AnonymousClass3.count :int[]" :=
    (FieldReference.countOf "a/Outer$3".toList (by decide)).fieldReferenceToSource_text
  have alsoField : fieldReferenceToSource "La/Outer.AnonymousClass3;->count:[I" =
      .ok "a.Outer.AnonymousClass3.count :int[]" :=
    (FieldReference.countOf "a/Outer.AnonymousClass3".toList
      (by decide)).fieldReferenceToSource_text
  obtain ⟨r, s, rText, sText, _, sameOverload⟩ :=
    signatures_identify.1 _ _ _ _ method alsoMethod
  obtain ⟨u, v, uText, vText, _, sameField⟩ := signatures_identify.2 _ _ _ _ field alsoField
  have isOuter : r = .callOf "a/Outer$3".toList (by decide) :=
    MethodReference.text_injective rText
  have isNamed : s = .callOf "a/Outer.AnonymousClass3".toList (by decide) :=
    MethodReference.text_injective sText
  have ofOuter : u = .countOf "a/Outer$3".toList (by decide) :=
    FieldReference.text_injective uText
  have ofNamed : v = .countOf "a/Outer.AnonymousClass3".toList (by decide) :=
    FieldReference.text_injective vText
  refine ⟨method, alsoMethod, ⟨r, s, rText, sText, sameOverload ?_ ?_ rfl⟩, field, alsoField,
    u, v, uText, vText, sameField ?_ ?_ rfl⟩
  · exact isOuter ▸ MethodReference.separable_callOf _
  · exact isNamed ▸ MethodReference.separable_callOf _
  · exact ofOuter ▸ FieldReference.separable_countOf _ (by decide)
  · exact ofNamed ▸ FieldReference.separable_countOf _ (by decide)

-- A comma in the name of a class cannot be told from one between two parameters.
example : methodReferenceToSource "La/A;->call(Lb, c;)V" =
    methodReferenceToSource "La/A;->call(Lb;Lc;)V" := by cbv

end ClassAtlas
