import ClassAtlas.Proofs.Instance.DialectIndependence
import ClassAtlas.Proofs.Reference.Owner

/-! A member has the same owner before and after its reference is converted. The
reference shows the owner in front, as a descriptor; the signature shows it before the
last dot of its head, and the head has to end before the types, which may hold dots and
colons of their own. -/
namespace ClassAtlas

/-- Both texts name one owner: the class whose descriptor leads the first of them. -/
structure SharesOwner (reference signature : String) : Prop where
  leading : ∃ name rest owner, leadingOwner reference.toList = some (name, rest) ∧
    typeNameToSource (ownerDescriptor name) = .ok owner ∧
      owningClass reference = .ok owner ∧ owningClass signature = .ok owner
  memberOwner : Command.memberOwner none reference = Command.memberOwner none signature

theorem owningClass_of_leading {reference owner : String} {name rest : List Char}
    (binary : classify reference = .ok .binary)
    (leading : leadingOwner reference.toList = some (name, rest))
    (named : typeNameToSource (ownerDescriptor name) = .ok owner) :
    owningClass reference = .ok owner := by
  rw [owningClass, binary]
  simp only [bind, Except.bind, leading]
  exact named

theorem sharesOwner_of_head {reference signature : String} {owner name : List Char}
    (ownerOk : isObjectName owner) (binary : classify reference = .ok .binary)
    (starts : (TypeDescriptor.object owner).encode <+: reference.toList)
    (source : classify signature = .ok .source)
    (head : signatureHead signature.toList =
      (TypeDescriptor.object owner).sourceName.toList ++ '.' :: name)
    (undotted : '.' ∉ name) : SharesOwner reference signature := by
  obtain ⟨rest, written⟩ := starts
  have leading : leadingOwner reference.toList = some (owner, rest) := by
    rw [← written]
    exact leadingOwner_encode ownerOk rest
  have named : typeNameToSource (ownerDescriptor owner) =
      .ok (TypeDescriptor.object owner).sourceName := typeNameToSource_encode ownerOk
  have nonempty : (TypeDescriptor.object owner).sourceName.toList ≠ [] := by
    rw [TypeDescriptor.toList_sourceName]
    exact TypeDescriptor.sourceChars_ne_nil (t := .object owner) ownerOk
  have before := owningClass_of_leading binary leading named
  have after := owningClass_of_head source nonempty head undotted
  refine ⟨⟨owner, rest, _, leading, named, before, after⟩, ?_⟩
  rw [memberOwner_of_head source nonempty head undotted, Command.memberOwner, before]
  rfl

theorem MethodReference.sharesOwner {r : MethodReference}
    (binary : classify r.text = .ok .binary) (plain : '/' ∉ r.name) (undotted : '.' ∉ r.name) :
    SharesOwner r.text r.symbol.signature := by
  have ownerOk : (TypeDescriptor.object r.owner).WellFormed := r.owner_ok
  have ownerClosed := TypeDescriptor.parenthesis_not_mem_sourceChars ownerOk
  apply sharesOwner_of_head r.owner_ok binary
  · simp [text]
  · exact classify_signature plain
  · rw [MethodSymbol.toList_signature, List.append_assoc, List.cons_append]
    simp only [symbol, MethodDescriptor.symbol, String.toList_ofList,
      TypeDescriptor.toList_sourceName]
    exact signatureHead_method ownerClosed r.name_plain
  · exact undotted

theorem FieldReference.sharesOwner {r : FieldReference}
    (binary : classify r.text = .ok .binary) (plain : '/' ∉ r.name) (undotted : '.' ∉ r.name)
    (closed : '(' ∉ r.name) (ownerPlain : ¬ fieldMark <:+: r.owner) :
    SharesOwner r.text r.symbol.signature := by
  have ownerUnmarked : ¬ fieldMark <:+: (TypeDescriptor.object r.owner).sourceChars := by
    intro found
    obtain ⟨name, isBase, inName⟩ := TypeDescriptor.object_of_fieldMark_infix found
    cases isBase
    exact ownerPlain inName
  have closedText := parenthesis_not_mem_signature closed
  apply sharesOwner_of_head r.owner_ok binary
  · simp [text]
  · exact classify_signature plain
  · rw [FieldSymbol.toList_signature] at closedText ⊢
    simp only [symbol, TypeDescriptor.fieldSymbol, String.toList_ofList,
      TypeDescriptor.toList_sourceName] at closedText ⊢
    exact signatureHead_field closedText ownerUnmarked r.name_plain
  · exact undotted

/-- Converting a binary reference keeps the owner of its member. The name of the member is
copied, so it must not hold a mark at which the signature is cut. -/
theorem sharesOwner_of_translates (reference signature : String) :
    (MethodTranslates reference signature →
        (∀ r : MethodReference, r.text = reference → '.' ∉ r.name) →
      SharesOwner reference signature) ∧
    (FieldTranslates reference signature →
        (∀ r : FieldReference, r.text = reference →
          '.' ∉ r.name ∧ '(' ∉ r.name ∧ ¬ fieldMark <:+: r.owner) →
      SharesOwner reference signature) := by
  constructor
  · intro method undotted
    obtain ⟨r, rfl, rfl⟩ := methodReferences_convertExactly.eq_ok_iff.1 method.accepted
    exact MethodReference.sharesOwner method.binary (method.plain r rfl) (undotted r rfl)
  · intro field shows
    obtain ⟨r, rfl, rfl⟩ := fieldReferences_convertExactly.eq_ok_iff.1 field.accepted
    obtain ⟨undotted, closed, ownerPlain⟩ := shows r rfl
    exact FieldReference.sharesOwner field.binary (field.plain r rfl) undotted closed ownerPlain

/-! A method and a field of anonymous classes, with dots and colons in their types. -/

def mergeReference : MethodReference where
  owner := "com/example/Table$3".toList
  name := "merge".toList
  descriptor := ⟨[.array (.object "java/util/Map".toList)], .object "p/x :y".toList⟩
  owner_ok := by decide
  name_ne_nil := by decide
  name_plain := by decide
  wellFormed := by decide

def indexReference : FieldReference where
  owner := "Outer$3".toList
  name := "index".toList
  type := .array (.object "p/x :y".toList)
  owner_ok := by decide
  name_ne_nil := by decide
  name_plain := by decide
  wellFormed := by decide

theorem eq_mergeReference {r : MethodReference}
    (written : r.text = "Lcom/example/Table$3;->merge([Ljava/util/Map;)Lp/x :y;") :
    r = mergeReference := MethodReference.text_injective written

theorem eq_indexReference {r : FieldReference}
    (written : r.text = "LOuter$3;->index:[Lp/x :y;") : r = indexReference :=
  FieldReference.text_injective written

theorem methodTranslates_merge :
    MethodTranslates "Lcom/example/Table$3;->merge([Ljava/util/Map;)Lp/x :y;"
      "com.example.Table.AnonymousClass3.merge(java.util.Map[]):p.x :y" where
  binary := rfl
  accepted := mergeReference.methodReferenceToSource_text
  plain r written := by
    rw [eq_mergeReference written]
    decide

theorem fieldTranslates_index :
    FieldTranslates "LOuter$3;->index:[Lp/x :y;" "Outer.AnonymousClass3.index :p.x :y[]" where
  binary := rfl
  accepted := indexReference.fieldReferenceToSource_text
  plain r written := by
    rw [eq_indexReference written]
    decide

theorem sharesOwner_anonymous :
    SharesOwner "Lcom/example/Table$3;->merge([Ljava/util/Map;)Lp/x :y;"
        "com.example.Table.AnonymousClass3.merge(java.util.Map[]):p.x :y" ∧
      SharesOwner "LOuter$3;->index:[Lp/x :y;" "Outer.AnonymousClass3.index :p.x :y[]" ∧
      owningClass "LOuter$3;->index:[Lp/x :y;" = .ok "Outer.AnonymousClass3" := by
  refine ⟨?_, ?_, rfl⟩
  · apply (sharesOwner_of_translates _ _).1 methodTranslates_merge
    intro r written
    rw [eq_mergeReference written]
    decide
  · apply (sharesOwner_of_translates _ _).2 fieldTranslates_index
    intro r written
    rw [eq_indexReference written]
    refine ⟨by decide, by decide, fun found => ?_⟩
    exact absurd (found.subset (by decide : ':' ∈ fieldMark)) (by decide)

end ClassAtlas
