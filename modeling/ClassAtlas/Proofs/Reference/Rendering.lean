import ClassAtlas.Proofs.Reference.Grammar

/-! What the converters write is in the source dialect, so that an argument which is
converted once is kept from then on. Source names hold no slash and no semicolon and
start with no bracket. Of a signature this is true unless the name of the member, which
is copied, holds a slash. The marks of members come into a source name only with the name
of an object. -/
namespace ClassAtlas

theorem TypeDescriptor.classify_sourceName {t : TypeDescriptor} (wellFormed : t.WellFormed) :
    classify t.sourceName = .ok .source := by
  apply classify_of_plain <;> rw [toList_sourceName]
  · exact sourceChars_ne_nil wellFormed
  · exact slash_not_mem_sourceChars t
  · exact head?_sourceChars wellFormed
  · exact getLast?_sourceChars wellFormed

theorem classify_of_typeNameToSource {descriptor name : String}
    (converted : typeNameToSource descriptor = .ok name) : classify name = .ok .source := by
  obtain ⟨t, wellFormed, _, rfl⟩ := typeNameToSource_eq_ok_iff.1 converted
  exact t.classify_sourceName wellFormed

theorem TypeDescriptor.object_of_fieldMark_infix {t : TypeDescriptor}
    (found : fieldMark <:+: t.sourceChars) :
    ∃ name, t.base = .object name ∧ fieldMark <:+: name :=
  infix_of_infix_sourceChars (c := ':') (by decide) (by decide) rfl (by decide) (by decide) found

/-- A signature starts with the name of its owner and ends with that of a type. -/
theorem classify_signature {owner last : TypeDescriptor} (ownerOk : owner.WellFormed)
    (lastOk : last.WellFormed) (member : List Char) (plain : '/' ∉ member) {text : String}
    (glued : text.toList = owner.sourceChars ++ member ++ last.sourceChars) :
    classify text = .ok .source := by
  have ownerNonempty := TypeDescriptor.sourceChars_ne_nil ownerOk
  have lastNonempty := TypeDescriptor.sourceChars_ne_nil lastOk
  apply classify_of_plain <;> rw [glued]
  · simp [ownerNonempty]
  · simp [plain, TypeDescriptor.slash_not_mem_sourceChars]
  · rw [List.append_assoc, List.head?_append_of_ne_nil _ ownerNonempty]
    exact TypeDescriptor.head?_sourceChars ownerOk
  · rw [List.getLast?_append_of_ne_nil _ lastNonempty]
    exact TypeDescriptor.getLast?_sourceChars lastOk

theorem MethodReference.classify_signature {r : MethodReference} (plain : '/' ∉ r.name) :
    classify r.symbol.signature = .ok .source := by
  have plainParameters :
      '/' ∉ [',', ' '].intercalate (r.descriptor.parameters.map TypeDescriptor.sourceChars) :=
    Text.not_mem_intercalate (by decide)
      (List.forall_mem_map.2 fun p _ => p.slash_not_mem_sourceChars)
  have ownerOk : (TypeDescriptor.object r.owner).WellFormed := r.owner_ok
  apply ClassAtlas.classify_signature ownerOk r.wellFormed.2
    ('.' :: r.name ++ '(' ::
      [',', ' '].intercalate (r.descriptor.parameters.map TypeDescriptor.sourceChars) ++ [')', ':'])
  · simp [plain, plainParameters]
  · simp [MethodSymbol.toList_signature, symbol, MethodDescriptor.symbol, Function.comp_def]

theorem FieldReference.classify_signature {r : FieldReference} (plain : '/' ∉ r.name) :
    classify r.symbol.signature = .ok .source := by
  have ownerOk : (TypeDescriptor.object r.owner).WellFormed := r.owner_ok
  apply ClassAtlas.classify_signature ownerOk r.wellFormed ('.' :: r.name ++ fieldMark)
  · simp [plain, fieldMark]
  · simp [FieldSymbol.toList_signature, symbol, TypeDescriptor.fieldSymbol]

theorem FieldReference.parenthesis_not_mem_signature {r : FieldReference} (closed : '(' ∉ r.name) :
    '(' ∉ r.symbol.signature.toList := by
  have ownerOk : (TypeDescriptor.object r.owner).WellFormed := r.owner_ok
  have ownerClosed := TypeDescriptor.parenthesis_not_mem_sourceChars ownerOk
  have typeClosed := TypeDescriptor.parenthesis_not_mem_sourceChars r.wellFormed
  simp [FieldSymbol.toList_signature, symbol, TypeDescriptor.fieldSymbol, fieldMark, closed,
    ownerClosed, typeClosed]

end ClassAtlas
