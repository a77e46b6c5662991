import ClassAtlas.Proofs.Descriptor.SourceName
import ClassAtlas.Reference
import ClassAtlas.Symbol

/-! A written member reference is converted to the signature of the member. The
converter and the symbols write signatures each in their own way, and they agree. -/
namespace ClassAtlas

def MethodDescriptor.symbol (d : MethodDescriptor) (owner name : List Char) : MethodSymbol where
  name := String.ofList name
  params := d.parameters.map TypeDescriptor.sourceName
  returnType := d.result.sourceName
  declaringClass := (TypeDescriptor.object owner).sourceName

def TypeDescriptor.fieldSymbol (t : TypeDescriptor) (owner name : List Char) : FieldSymbol where
  name := String.ofList name
  fieldType := t.sourceName
  declaringClass := (TypeDescriptor.object owner).sourceName

theorem MethodSymbol.toList_signature (m : MethodSymbol) :
    m.signature.toList =
      m.declaringClass.toList ++ '.' :: m.name.toList ++
        '(' :: [',', ' '].intercalate (m.params.map String.toList) ++
          ')' :: ':' :: m.returnType.toList := by
  simp [signature, String.toList_intercalate]

theorem FieldSymbol.toList_signature (f : FieldSymbol) :
    f.signature.toList =
      f.declaringClass.toList ++ '.' :: f.name.toList ++ fieldMark ++ f.fieldType.toList := by
  simp [signature, fieldMark]

section Members
variable {owner name : List Char} (ownerOk : isObjectName owner) (nameOk : name ≠ [])
include ownerOk

theorem splitMember_encode (member : List Char) :
    splitMember
        (String.ofList ((TypeDescriptor.object owner).encode ++ memberArrow ++ member)) =
      .ok ((TypeDescriptor.object owner).sourceName, member) := by
  have named := isObjectName_iff.1 ownerOk
  have cut := Text.cutFirst_append named.2.1 ('-' :: '>' :: member)
  have source : typeNameToSource (ownerDescriptor owner) =
      .ok (TypeDescriptor.object owner).sourceName := typeNameToSource_encode ownerOk
  simp [splitMember, leadingOwner, TypeDescriptor.encode, memberArrow, cut, named.1, source,
    bind, Except.bind, pure, Except.pure]

include nameOk

theorem methodReferenceToSource_encode (plain : '(' ∉ name) {d : MethodDescriptor}
    (wellFormed : d.WellFormed) :
    methodReferenceToSource
        (String.ofList
          ((TypeDescriptor.object owner).encode ++ memberArrow ++ (name ++ d.encode))) =
      .ok (d.symbol owner name).signature := by
  have cut : Text.cutFirst '(' (name ++ d.encode) = some (name, d.encode.tail) :=
    Text.cutFirst_append plain _
  have parsed : MethodDescriptor.parse (String.ofList ('(' :: d.encode.tail)) = .ok d :=
    MethodDescriptor.parse_encode wellFormed
  have parameters : d.parameters.map (String.toList ∘ TypeDescriptor.sourceName) =
      d.parameters.map TypeDescriptor.sourceChars := by
    simp [Function.comp_def]
  unfold methodReferenceToSource
  rw [splitMember_encode ownerOk]
  simp only [bind, Except.bind, cut, parsed, List.isEmpty_iff, nameOk, if_false]
  rw [← String.ofList_toList (s := MethodSymbol.signature _), MethodSymbol.toList_signature]
  simp [MethodDescriptor.symbol, parameters, pure, Except.pure]

theorem fieldReferenceToSource_encode (plain : ':' ∉ name) {t : TypeDescriptor}
    (wellFormed : t.WellFormed) :
    fieldReferenceToSource
        (String.ofList
          ((TypeDescriptor.object owner).encode ++ memberArrow ++ (name ++ ':' :: t.encode))) =
      .ok (t.fieldSymbol owner name).signature := by
  have cut := Text.cutFirst_append plain t.encode
  unfold fieldReferenceToSource
  rw [splitMember_encode ownerOk]
  simp only [bind, Except.bind, cut, typeNameToSource_encode wellFormed, List.isEmpty_iff, nameOk,
    t.encode_ne_nil, Bool.or_eq_true, or_self, if_false]
  rw [← String.ofList_toList (s := FieldSymbol.signature _), FieldSymbol.toList_signature]
  simp [TypeDescriptor.fieldSymbol, pure, Except.pure]

end Members

/-! An argument is converted if it is binary, and taken as it is if it is not. -/

section InSource
variable {convert : String → Except Failure String} {identifier converted : String}

theorem inSource_of_binary (binary : classify identifier = .ok .binary) :
    inSource convert identifier = convert identifier := by
  rw [inSource, binary]
  rfl

theorem inSource_of_source (source : classify identifier = .ok .source) :
    inSource convert identifier = .ok identifier := by
  rw [inSource, source]
  rfl

theorem inSource_eq_of_converted (binary : classify identifier = .ok .binary)
    (accepted : convert identifier = .ok converted)
    (source : classify converted = .ok .source) :
    inSource convert identifier = inSource convert converted := by
  rw [inSource_of_binary binary, accepted, inSource_of_source source]

end InSource

theorem classify_of_plain {text : String} (nonempty : text.toList ≠ [])
    (slash : '/' ∉ text.toList) (first : text.toList.head? ≠ some '[')
    (last : text.toList.getLast? ≠ some ';') : classify text = .ok .source := by
  simp [classify, isBinary, nonempty, slash, first, last]

theorem normalizeClassName_ownerDescriptor (name : List Char) :
    normalizeClassName (ownerDescriptor name) = typeNameToSource (ownerDescriptor name) := by
  have binary : isBinary (TypeDescriptor.object name).encode := by
    simp [isBinary, TypeDescriptor.encode, List.getLast?_cons]
  have nonempty := (TypeDescriptor.object name).encode_ne_nil
  have classified : classify (ownerDescriptor name) = .ok .binary := by
    simp [classify, ownerDescriptor, binary, nonempty]
  rw [normalizeClassName, inSource_of_binary classified]

theorem typeNameToSource_ownerDescriptor_iff {name : List Char} {source : String} :
    typeNameToSource (ownerDescriptor name) = .ok source ↔
      isObjectName name ∧ (TypeDescriptor.object name).sourceName = source := by
  rw [typeNameToSource_eq_ok_iff]
  constructor
  · rintro ⟨t, wellFormed, written, named⟩
    cases TypeDescriptor.encode_eq_object_iff.1 (String.ofList_inj.1 written).symm
    exact ⟨wellFormed, named⟩
  · rintro ⟨isName, named⟩
    exact ⟨.object name, isName, rfl, named⟩

theorem normalizeClassName_of_plain {name : String} (nonempty : name.toList ≠ [])
    (slash : '/' ∉ name.toList) (semicolon : ';' ∉ name.toList) (bracket : '[' ∉ name.toList) :
    normalizeClassName name = .ok name :=
  inSource_of_source (classify_of_plain nonempty slash
    (fun first => bracket (List.mem_of_mem_head? first))
    fun last => semicolon (List.mem_of_getLast? last))

end ClassAtlas
