import ClassAtlas.Proofs.Reference.Grammar

/-! Where void is read. It is no value, so it cannot be a parameter or what an array holds, and
the readers of types and of methods see to that at every depth. A field is a value too, but its
type is read as a type that stands alone, and there void is allowed: a field reference that ends
in `:V` is accepted, as the reference of a field without a type. -/
namespace ClassAtlas

namespace TypeDescriptor

/-- What an array holds, at all depths. -/
def elements : TypeDescriptor → List TypeDescriptor
  | array element => element :: element.elements
  | _ => []

/-- A type and what it holds. -/
def parts (t : TypeDescriptor) : List TypeDescriptor :=
  t :: t.elements

theorem void_not_mem_elements {t : TypeDescriptor} (wellFormed : t.WellFormed) :
    void ∉ t.elements := by
  induction t with
  | void | primitive | object => exact List.not_mem_nil
  | array element ih =>
    obtain ⟨notVoid, inner⟩ := wellFormed
    rw [elements, List.mem_cons, not_or]
    exact ⟨notVoid.symm, ih inner⟩

theorem void_mem_parts_iff {t : TypeDescriptor} (wellFormed : t.WellFormed) :
    void ∈ t.parts ↔ t = void := by
  rw [parts, List.mem_cons, or_iff_left (void_not_mem_elements wellFormed)]
  exact eq_comm

theorem encode_eq_void_iff {t : TypeDescriptor} : t.encode = ['V'] ↔ t = void := by
  cases t with
  | primitive p => cases p <;> simp [encode, Primitive.code]
  | _ => simp [encode]

/-- No other type ends as void does: an object ends in its semicolon, and an array in what it
holds. -/
theorem getLast?_encode_eq_void_iff {t : TypeDescriptor} (wellFormed : t.WellFormed) :
    t.encode.getLast? = some 'V' ↔ t = void := by
  induction t with
  | void => simp [encode]
  | primitive p => cases p <;> simp [encode, Primitive.code]
  | object name => simp [encode, List.getLast?_cons]
  | array element ih =>
    obtain ⟨notVoid, inner⟩ := wellFormed
    obtain ⟨c, rest, written⟩ := List.exists_cons_of_ne_nil element.encode_ne_nil
    have last : (array element).encode.getLast? = element.encode.getLast? := by
      rw [encode, written, List.getLast?_cons_cons]
    simp [last, ih inner, notVoid]

end TypeDescriptor

/-- The types in the places of values: the parameters with what they hold, and what the result
holds. The result itself may be no value. -/
def MethodDescriptor.values (d : MethodDescriptor) : List TypeDescriptor :=
  d.parameters.flatMap TypeDescriptor.parts ++ d.result.elements

theorem MethodDescriptor.void_not_mem_values {d : MethodDescriptor} (wellFormed : d.WellFormed) :
    .void ∉ d.values := by
  rw [values, List.mem_append, not_or, List.mem_flatMap]
  refine ⟨?_, TypeDescriptor.void_not_mem_elements wellFormed.2⟩
  rintro ⟨p, isParameter, inside⟩
  obtain ⟨notVoid, parameterOk⟩ := wellFormed.1 p isParameter
  exact notVoid ((TypeDescriptor.void_mem_parts_iff parameterOk).1 inside)

theorem FieldReference.endsInVoid_iff (r : FieldReference) :
    [':', 'V'] <:+ r.text.toList ↔ r.type = .void := by
  rw [text, String.toList_ofList, ← List.append_assoc]
  constructor
  · rintro ⟨front, glued⟩
    have last := congrArg List.getLast? glued
    rw [List.getLast?_append_cons, List.getLast?_append_cons,
      List.getLast?_cons_of_ne_nil r.type.encode_ne_nil] at last
    exact (TypeDescriptor.getLast?_encode_eq_void_iff r.wellFormed).1 last.symm
  · intro isVoid
    rw [isVoid]
    exact List.suffix_append _ [':', 'V']

/-- No value that is read from a text as a type, a method or the reference of a method is void
or holds void. A type is void only where it is the whole text. -/
structure KeepsVoidOut (text : String) : Prop where
  type : ∀ t, TypeDescriptor.parse text = .ok t → .void ∉ t.elements ∧ (t = .void ↔ text = "V")
  method : ∀ d, MethodDescriptor.parse text = .ok d → .void ∉ d.values
  methodReference : ∀ signature, methodReferenceToSource text = .ok signature →
    ∃ r : MethodReference, r.text = text ∧ r.symbol.signature = signature ∧
      .void ∉ r.descriptor.values

/-- The same for a text that is read as the reference of a field. -/
def FieldKeepsVoidOut (text : String) : Prop :=
  ∀ signature, fieldReferenceToSource text = .ok signature →
    ∃ r : FieldReference, r.text = text ∧ r.symbol.signature = signature ∧ .void ∉ r.type.parts

theorem keepsVoidOut (text : String) : KeepsVoidOut text where
  type t parsed := by
    obtain ⟨wellFormed, rfl⟩ := TypeDescriptor.parse_eq_ok_iff.1 parsed
    refine ⟨TypeDescriptor.void_not_mem_elements wellFormed, ?_⟩
    rw [← TypeDescriptor.encode_eq_void_iff]
    exact String.ofList_inj.symm
  method d parsed :=
    MethodDescriptor.void_not_mem_values (MethodDescriptor.parse_eq_ok_iff.1 parsed).1
  methodReference signature accepted := by
    obtain ⟨r, written, renders⟩ := methodReferences_convertExactly.eq_ok_iff.1 accepted
    exact ⟨r, written, renders, MethodDescriptor.void_not_mem_values r.wellFormed⟩

/-- Of all that is read only the type of a field can be void: exactly that of a reference that
ends in `:V`, and even then it holds no void inside. -/
theorem void_read_as_value_iff (text : String) :
    KeepsVoidOut text ∧
      (FieldKeepsVoidOut text ↔
        ((∃ signature, fieldReferenceToSource text = .ok signature) →
          ¬ [':', 'V'] <:+ text.toList)) ∧
      ∀ r : FieldReference, r.text = text → .void ∉ r.type.elements := by
  refine ⟨keepsVoidOut text, ⟨?_, ?_⟩, ?_⟩
  · rintro free ⟨signature, accepted⟩ ending
    obtain ⟨r, rfl, -, noVoid⟩ := free signature accepted
    rw [TypeDescriptor.void_mem_parts_iff r.wellFormed] at noVoid
    exact noVoid (r.endsInVoid_iff.1 ending)
  · intro ending signature accepted
    obtain ⟨r, rfl, renders⟩ := fieldReferences_convertExactly.eq_ok_iff.1 accepted
    refine ⟨r, rfl, renders, ?_⟩
    rw [TypeDescriptor.void_mem_parts_iff r.wellFormed, ← r.endsInVoid_iff]
    exact ending ⟨signature, accepted⟩
  · intro r _
    exact TypeDescriptor.void_not_mem_elements r.wellFormed

/-- A field that is declared void. -/
def voidField : FieldReference where
  owner := "a/B".toList
  name := "c".toList
  type := .void
  owner_ok := by decide
  name_ne_nil := by decide
  name_plain := by decide
  wellFormed := trivial

theorem fieldReferenceToSource_voidField :
    fieldReferenceToSource "La/B;->c:V" = .ok "a.B.c :void" ∧ ¬ FieldKeepsVoidOut "La/B;->c:V" := by
  have accepted : fieldReferenceToSource "La/B;->c:V" = .ok "a.B.c :void" :=
    voidField.fieldReferenceToSource_text
  refine ⟨accepted, ?_⟩
  intro free
  obtain ⟨r, written, -, noVoid⟩ := free _ accepted
  have same : r = voidField := FieldReference.text_injective written
  rw [same] at noVoid
  exact noVoid List.mem_cons_self

end ClassAtlas
