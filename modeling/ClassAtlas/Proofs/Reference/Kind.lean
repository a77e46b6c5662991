import ClassAtlas.Proofs.Reference.Rendering

/-! Conversion keeps the kind of an identifier, and converting twice is converting once.
The kind of a source text is told by a parenthesis or by ` :` anywhere in it, so each
converter has to write the mark of its kind and no mark of another. -/
namespace ClassAtlas

/-! Dialect and kind of a text. -/

theorem infer_eq_ok_iff {identifier : String} {dialect : Dialect} {kind : SymbolKind} :
    Signature.infer identifier = .ok ⟨dialect, kind, identifier⟩ ↔
      classify identifier = .ok dialect ∧ kindOf dialect identifier.toList = kind := by
  unfold Signature.infer
  cases classified : classify identifier with
  | error why => simp [bind, Except.bind]
  | ok found =>
    simp only [bind, Except.bind, pure, Except.pure, Except.ok.injEq, Signature.mk.injEq, and_true]
    constructor <;> rintro ⟨rfl, same⟩ <;> exact ⟨rfl, same⟩

theorem toSource_of_source {identifier : String} (source : classify identifier = .ok .source) :
    toSource identifier = .ok identifier := by
  rw [toSource, infer_eq_ok_iff.2 ⟨source, rfl⟩]
  rfl

section Kind
variable {text : List Char}

theorem kindOf_source_method (opened : '(' ∈ text) : kindOf .source text = .method := by
  simp [kindOf, opened]

theorem kindOf_source_field (closed : '(' ∉ text) (marked : fieldMark <:+: text) :
    kindOf .source text = .field := by
  simp [kindOf, closed, Text.occursIn_iff.2 marked]

theorem kindOf_source_type (closed : '(' ∉ text) (unmarked : ¬ fieldMark <:+: text) :
    kindOf .source text = .type := by
  simp [kindOf, closed, mt Text.occursIn_iff.1 unmarked]

/-- No parenthesis stands behind the first arrow of a field reference, and so none behind
any arrow of it. -/
theorem closed_of_kindOf_field {before after : List Char}
    (isField : kindOf .binary (before ++ memberArrow ++ after) = .field) : '(' ∉ after := by
  rw [kindOf] at isField
  split at isField
  · next first member cut =>
    intro inside
    have inMember : '(' ∈ member := (Text.suffix_of_cutAt cut).subset inside
    simp [inMember] at isField
  · cases isField

end Kind

/-- The converter of binary texts of a kind. -/
def SymbolKind.convert : SymbolKind → String → Except Failure String
  | .type => typeNameToSource
  | .method => methodReferenceToSource
  | .field => fieldReferenceToSource

theorem toSource_of_binary {identifier : String} {kind : SymbolKind}
    (inferred : Signature.infer identifier = .ok ⟨.binary, kind, identifier⟩) :
    toSource identifier = kind.convert identifier := by
  rw [toSource, inferred]
  cases kind <;> rfl

/-- The names that are copied into the source text hold nothing that would be read there as
a mark: of a member, the slash of the binary dialect, and of a class, the mark of a field. -/
structure CopiesPlainly (identifier : String) : Prop where
  type : Signature.infer identifier = .ok ⟨.binary, .type, identifier⟩ →
    ∀ t : TypeDescriptor, t.WellFormed → String.ofList t.encode = identifier →
      ∀ name, t.base = .object name → ¬ fieldMark <:+: name
  method : Signature.infer identifier = .ok ⟨.binary, .method, identifier⟩ →
    ∀ r : MethodReference, r.text = identifier → '/' ∉ r.name
  field : Signature.infer identifier = .ok ⟨.binary, .field, identifier⟩ →
    ∀ r : FieldReference, r.text = identifier → '/' ∉ r.name

/-- What the converter of a kind writes is a source text of that kind. -/
theorem kindOf_of_convert {identifier source : String} {kind : SymbolKind}
    (plain : CopiesPlainly identifier)
    (inferred : Signature.infer identifier = .ok ⟨.binary, kind, identifier⟩)
    (converted : kind.convert identifier = .ok source) :
    classify source = .ok .source ∧ kindOf .source source.toList = kind := by
  cases kind with
  | type =>
    obtain ⟨t, wellFormed, rfl, rfl⟩ := typeNameToSource_eq_ok_iff.1 converted
    refine ⟨TypeDescriptor.classify_sourceName wellFormed, ?_⟩
    rw [TypeDescriptor.toList_sourceName]
    apply kindOf_source_type (TypeDescriptor.parenthesis_not_mem_sourceChars wellFormed)
    intro found
    obtain ⟨name, isBase, inName⟩ := TypeDescriptor.object_of_fieldMark_infix found
    exact plain.type inferred t wellFormed rfl name isBase inName
  | method =>
    obtain ⟨r, rfl, rfl⟩ := methodReferences_convertExactly.eq_ok_iff.1 converted
    refine ⟨MethodReference.classify_signature (plain.method inferred r rfl), ?_⟩
    apply kindOf_source_method
    simp [MethodSymbol.toList_signature]
  | field =>
    obtain ⟨r, rfl, rfl⟩ := fieldReferences_convertExactly.eq_ok_iff.1 converted
    refine ⟨FieldReference.classify_signature (plain.field inferred r rfl), ?_⟩
    have isField := (infer_eq_ok_iff.1 inferred).2
    rw [FieldReference.text, String.toList_ofList] at isField
    have closed : '(' ∉ r.name := fun inName =>
      closed_of_kindOf_field isField (List.mem_append_left _ inName)
    apply kindOf_source_field (FieldReference.parenthesis_not_mem_signature closed)
    rw [FieldSymbol.toList_signature]
    exact ⟨_, _, rfl⟩

/-- Converting an identifier twice is converting it once, and its kind stays. -/
theorem toSource_idempotent {identifier source : String} (plain : CopiesPlainly identifier)
    (converted : toSource identifier = .ok source) :
    classify source = .ok .source ∧ toSource source = .ok source ∧
      ∃ found, Signature.infer identifier = .ok found ∧
        Signature.infer source = .ok ⟨.source, found.kind, source⟩ ∧
        (found.dialect = .source → Signature.infer source = Signature.infer identifier) := by
  cases classified : classify identifier with
  | error why =>
    rw [toSource, Signature.infer, classified] at converted
    cases converted
  | ok dialect =>
    have inferred := infer_eq_ok_iff.2 ⟨classified, rfl⟩
    cases dialect with
    | source =>
      rw [toSource_of_source classified] at converted
      cases converted
      exact ⟨classified, toSource_of_source classified, _, inferred, inferred, fun _ => rfl⟩
    | binary =>
      rw [toSource_of_binary inferred] at converted
      obtain ⟨classifiedSource, sameKind⟩ := kindOf_of_convert plain inferred converted
      refine ⟨classifiedSource, toSource_of_source classifiedSource, _, inferred, ?_, nofun⟩
      exact infer_eq_ok_iff.2 ⟨classifiedSource, sameKind⟩

/-! A field whose owner has an arrow in its name. -/

def sizeReference : FieldReference where
  owner := "a->b/Outer$3".toList
  name := "size".toList
  type := .array (.object "p/Q$1".toList)
  owner_ok := by decide
  name_ne_nil := by decide
  name_plain := by decide
  wellFormed := by decide

theorem infer_size :
    Signature.infer "La->b/Outer$3;->size:[Lp/Q$1;" =
      .ok ⟨.binary, .field, "La->b/Outer$3;->size:[Lp/Q$1;"⟩ := rfl

theorem copiesPlainly_size : CopiesPlainly "La->b/Outer$3;->size:[Lp/Q$1;" where
  type isType := by
    rw [infer_size] at isType
    cases isType
  method isMethod := by
    rw [infer_size] at isMethod
    cases isMethod
  field _ r written := by
    have same : r = sizeReference := FieldReference.text_injective written
    rw [same]
    decide

theorem toSource_idempotent_size :
    toSource "La->b/Outer$3;->size:[Lp/Q$1;" =
        .ok "a->b.Outer.AnonymousClass3.size :p.Q.AnonymousClass1[]" ∧
      toSource "a->b.Outer.AnonymousClass3.size :p.Q.AnonymousClass1[]" =
        .ok "a->b.Outer.AnonymousClass3.size :p.Q.AnonymousClass1[]" ∧
      Signature.infer "a->b.Outer.AnonymousClass3.size :p.Q.AnonymousClass1[]" =
        .ok ⟨.source, .field, "a->b.Outer.AnonymousClass3.size :p.Q.AnonymousClass1[]"⟩ := by
  have converted : toSource "La->b/Outer$3;->size:[Lp/Q$1;" =
      .ok "a->b.Outer.AnonymousClass3.size :p.Q.AnonymousClass1[]" := by
    rw [toSource_of_binary infer_size]
    exact sizeReference.fieldReferenceToSource_text
  obtain ⟨_, again, found, inferred, kept, _⟩ := toSource_idempotent copiesPlainly_size converted
  rw [infer_size] at inferred
  cases inferred
  exact ⟨converted, again, kept⟩

end ClassAtlas
