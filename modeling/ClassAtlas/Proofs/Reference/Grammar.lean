import ClassAtlas.Proofs.Descriptor.Grammar
import ClassAtlas.Proofs.Reference.Conversion
import Mathlib.Logic.ExistsUnique

/-! Member references by their grammar: an owner, an arrow, a name and a type. A text
is the reference of at most one member, because the owner ends at the first semicolon
and the name at the first mark of its type. The converters accept these texts and no
others, and what they refuse is malformed. -/
namespace ClassAtlas

@[ext] structure MethodReference where
  owner : List Char
  name : List Char
  descriptor : MethodDescriptor
  owner_ok : isObjectName owner
  name_ne_nil : name ≠ []
  name_plain : '(' ∉ name
  wellFormed : descriptor.WellFormed

@[ext] structure FieldReference where
  owner : List Char
  name : List Char
  type : TypeDescriptor
  owner_ok : isObjectName owner
  name_ne_nil : name ≠ []
  name_plain : ':' ∉ name
  wellFormed : type.WellFormed

def MethodReference.text (r : MethodReference) : String :=
  String.ofList
    ((TypeDescriptor.object r.owner).encode ++ memberArrow ++ (r.name ++ r.descriptor.encode))

def MethodReference.symbol (r : MethodReference) : MethodSymbol :=
  r.descriptor.symbol r.owner r.name

def FieldReference.text (r : FieldReference) : String :=
  String.ofList
    ((TypeDescriptor.object r.owner).encode ++ memberArrow ++ (r.name ++ ':' :: r.type.encode))

def FieldReference.symbol (r : FieldReference) : FieldSymbol :=
  r.type.fieldSymbol r.owner r.name

/-- `convert` accepts a text if it is that of one reference, and then writes the
signature of this reference. What it refuses is malformed. -/
structure ConvertsExactly {α : Type} (convert : String → Except Failure String)
    (text signature : α → String) : Prop where
  accepts : ∀ reference, (∃ converted, convert reference = .ok converted) ↔
    ∃! r, text r = reference
  renders : ∀ r, convert (text r) = .ok (signature r)
  refuses : ∀ reference, (∃ why, convert reference = .error why ∧ why.isMalformed) ↔
    ∀ r, text r ≠ reference

theorem convertsExactly_of_renders {α : Type} {convert : String → Except Failure String}
    {text signature : α → String} (injective : Function.Injective text)
    (renders : ∀ r, convert (text r) = .ok (signature r))
    (written : ∀ {reference converted}, convert reference = .ok converted →
      ∃ r, text r = reference)
    (malformed : ∀ {reference why}, convert reference = .error why → why.isMalformed) :
    ConvertsExactly convert text signature where
  accepts reference := by
    constructor
    · rintro ⟨converted, accepted⟩
      obtain ⟨r, rfl⟩ := written accepted
      exact ⟨r, rfl, fun s same => injective same⟩
    · rintro ⟨r, rfl, _⟩
      exact ⟨signature r, renders r⟩
  renders := renders
  refuses reference := by
    constructor
    · rintro ⟨why, refused, _⟩ r rfl
      rw [renders r] at refused
      cases refused
    · intro foreign
      cases outcome : convert reference with
      | ok converted =>
        obtain ⟨r, same⟩ := written outcome
        exact absurd same (foreign r)
      | error why => exact ⟨why, rfl, malformed outcome⟩

theorem ConvertsExactly.eq_ok_iff {α : Type} {convert : String → Except Failure String}
    {text signature : α → String} (exactly : ConvertsExactly convert text signature)
    {reference converted : String} :
    convert reference = .ok converted ↔ ∃ r, text r = reference ∧ signature r = converted := by
  constructor
  · intro accepted
    obtain ⟨r, rfl, _⟩ := (exactly.accepts reference).1 ⟨converted, accepted⟩
    rw [exactly.renders r] at accepted
    exact ⟨r, rfl, Except.ok.inj accepted⟩
  · rintro ⟨r, rfl, rfl⟩
    exact exactly.renders r

/-! The owner of a reference. -/

theorem leadingOwner_eq_some_iff {text owner rest : List Char} :
    leadingOwner text = some (owner, rest) ↔
      owner ≠ [] ∧ ';' ∉ owner ∧ text = (TypeDescriptor.object owner).encode ++ rest := by
  constructor
  · intro found
    unfold leadingOwner at found
    split at found
    · next inside =>
      split at found
      · next name after cut =>
        split at found
        · cases found
        · next nonempty =>
          cases found
          refine ⟨by simpa using nonempty, Text.not_mem_cutFirst cut, ?_⟩
          rw [Text.cutFirst_eq cut]
          simp [TypeDescriptor.encode]
      · cases found
    · cases found
  · rintro ⟨nonempty, plain, rfl⟩
    simp [leadingOwner, TypeDescriptor.encode, Text.cutFirst_append plain, nonempty]

theorem leadingOwner_encode {owner : List Char} (ownerOk : isObjectName owner)
    (rest : List Char) :
    leadingOwner ((TypeDescriptor.object owner).encode ++ rest) = some (owner, rest) :=
  have named := isObjectName_iff.1 ownerOk
  leadingOwner_eq_some_iff.2 ⟨named.1, named.2.1, rfl⟩

theorem isMalformed_of_classify {identifier : String} {why : Failure}
    (refused : classify identifier = .error why) : why.isMalformed := by
  unfold classify at refused
  split at refused
  · cases refused
    rfl
  · cases refused

theorem isMalformed_of_typeNameToSource {descriptor : String} {why : Failure}
    (refused : typeNameToSource descriptor = .error why) : why.isMalformed := by
  unfold typeNameToSource at refused
  cases parsed : TypeDescriptor.parse descriptor with
  | ok t => rw [parsed] at refused; cases refused
  | error cause =>
    rw [parsed] at refused
    cases refused
    rw [TypeDescriptor.quotes_of_parse parsed]
    rfl

theorem splitMember_eq_ok_iff {reference owner : String} {member : List Char} :
    splitMember reference = .ok (owner, member) ↔
      ∃ name, isObjectName name ∧ (TypeDescriptor.object name).sourceName = owner ∧
        reference =
          String.ofList ((TypeDescriptor.object name).encode ++ memberArrow ++ member) := by
  constructor
  · intro accepted
    unfold splitMember at accepted
    split at accepted
    · next name after leading =>
      obtain ⟨source, converted, same⟩ := bind_eq_ok_iff.1 accepted
      cases same
      obtain ⟨isName, named⟩ := typeNameToSource_ownerDescriptor_iff.1 converted
      refine ⟨name, isName, named, ?_⟩
      rw [← String.ofList_toList (s := reference), (leadingOwner_eq_some_iff.1 leading).2.2]
      simp [memberArrow]
    · cases accepted
  · rintro ⟨name, isName, rfl, rfl⟩
    exact splitMember_encode isName member

theorem isMalformed_of_splitMember {reference : String} {why : Failure}
    (refused : splitMember reference = .error why) : why.isMalformed := by
  unfold splitMember at refused
  split at refused
  · rcases bind_eq_error_iff.1 refused with malformed | ⟨_, _, impossible⟩
    · exact isMalformed_of_typeNameToSource malformed
    · cases impossible
  · cases refused
    rfl

/-- The owner ends at the first semicolon of the text, and the arrow follows. -/
theorem member_unique {owner other member otherMember : List Char}
    (ownerOk : isObjectName owner) (otherOk : isObjectName other)
    (same : (TypeDescriptor.object owner).encode ++ memberArrow ++ member =
      (TypeDescriptor.object other).encode ++ memberArrow ++ otherMember) :
    owner = other ∧ member = otherMember := by
  have leading := leadingOwner_encode ownerOk (memberArrow ++ member)
  rw [← List.append_assoc, same, List.append_assoc, leadingOwner_encode otherOk] at leading
  obtain ⟨sameOwner, after⟩ := Prod.mk.inj (Option.some.inj leading)
  exact ⟨sameOwner.symm, (List.append_cancel_left after).symm⟩

/-! Methods. -/

namespace MethodReference

theorem text_injective : Function.Injective text := by
  intro r s same
  obtain ⟨sameOwner, member⟩ :=
    member_unique r.owner_ok s.owner_ok (String.ofList_inj.1 same)
  -- both descriptors start with the first parenthesis after the arrow
  have cut : Text.cutFirst '(' (r.name ++ r.descriptor.encode) =
      some (r.name, r.descriptor.encode.tail) := Text.cutFirst_append r.name_plain _
  have cut' : Text.cutFirst '(' (s.name ++ s.descriptor.encode) =
      some (s.name, s.descriptor.encode.tail) := Text.cutFirst_append s.name_plain _
  rw [member, cut'] at cut
  have sameName := (Prod.mk.inj (Option.some.inj cut)).1.symm
  rw [sameName] at member
  have read := MethodDescriptor.read?_encode r.wellFormed
  rw [List.append_cancel_left member, MethodDescriptor.read?_encode s.wellFormed] at read
  exact MethodReference.ext sameOwner sameName (Option.some.inj read).symm

theorem methodReferenceToSource_text (r : MethodReference) :
    methodReferenceToSource r.text = .ok r.symbol.signature :=
  methodReferenceToSource_encode r.owner_ok r.name_ne_nil r.name_plain r.wellFormed

theorem exists_of_methodReferenceToSource {reference signature : String}
    (accepted : methodReferenceToSource reference = .ok signature) :
    ∃ r : MethodReference, r.text = reference := by
  unfold methodReferenceToSource at accepted
  obtain ⟨⟨owner, member⟩, split, accepted⟩ := bind_eq_ok_iff.1 accepted
  obtain ⟨ownerName, ownerOk, _, rfl⟩ := splitMember_eq_ok_iff.1 split
  dsimp only at accepted
  split at accepted
  · next name inside cut =>
    split at accepted
    · cases accepted
    · next nonempty =>
      obtain ⟨d, parsed, _⟩ := bind_eq_ok_iff.1 accepted
      obtain ⟨wellFormed, written⟩ := MethodDescriptor.parse_eq_ok_iff.1 parsed
      refine ⟨⟨ownerName, name, d, ownerOk, by simpa using nonempty,
        Text.not_mem_cutFirst cut, wellFormed⟩, ?_⟩
      rw [text, ← String.ofList_inj.1 written, ← Text.cutFirst_eq cut]
  · cases accepted

end MethodReference

theorem isMalformed_of_methodReferenceToSource {reference : String} {why : Failure}
    (refused : methodReferenceToSource reference = .error why) : why.isMalformed := by
  unfold methodReferenceToSource at refused
  rcases bind_eq_error_iff.1 refused with inOwner | ⟨⟨owner, member⟩, _, inMember⟩
  · exact isMalformed_of_splitMember inOwner
  · dsimp only at inMember
    split at inMember
    · split at inMember
      · cases inMember
        rfl
      · rcases bind_eq_error_iff.1 inMember with inDescriptor | ⟨_, _, impossible⟩
        · rw [MethodDescriptor.quotes_of_parse inDescriptor]
          rfl
        · cases impossible
    · cases inMember
      rfl

/-! Fields. -/

namespace FieldReference

theorem text_injective : Function.Injective text := by
  intro r s same
  obtain ⟨sameOwner, member⟩ :=
    member_unique r.owner_ok s.owner_ok (String.ofList_inj.1 same)
  have cut := Text.cutFirst_append r.name_plain r.type.encode
  rw [member, Text.cutFirst_append s.name_plain] at cut
  obtain ⟨sameName, written⟩ := Prod.mk.inj (Option.some.inj cut)
  have read := TypeDescriptor.parse_encode r.wellFormed
  rw [← written, TypeDescriptor.parse_encode s.wellFormed] at read
  exact FieldReference.ext sameOwner sameName.symm (Except.ok.inj read).symm

theorem fieldReferenceToSource_text (r : FieldReference) :
    fieldReferenceToSource r.text = .ok r.symbol.signature :=
  fieldReferenceToSource_encode r.owner_ok r.name_ne_nil r.name_plain r.wellFormed

theorem exists_of_fieldReferenceToSource {reference signature : String}
    (accepted : fieldReferenceToSource reference = .ok signature) :
    ∃ r : FieldReference, r.text = reference := by
  unfold fieldReferenceToSource at accepted
  obtain ⟨⟨owner, member⟩, split, accepted⟩ := bind_eq_ok_iff.1 accepted
  obtain ⟨ownerName, ownerOk, _, rfl⟩ := splitMember_eq_ok_iff.1 split
  dsimp only at accepted
  split at accepted
  · next name descriptor cut =>
    split at accepted
    · cases accepted
    · next nonempty =>
      obtain ⟨source, converted, _⟩ := bind_eq_ok_iff.1 accepted
      obtain ⟨t, wellFormed, written, _⟩ := typeNameToSource_eq_ok_iff.1 converted
      rw [Bool.or_eq_true, not_or, List.isEmpty_iff, List.isEmpty_iff] at nonempty
      refine ⟨⟨ownerName, name, t, ownerOk, nonempty.1, Text.not_mem_cutFirst cut,
        wellFormed⟩, ?_⟩
      rw [text, ← String.ofList_inj.1 written, ← Text.cutFirst_eq cut]
  · cases accepted

end FieldReference

theorem isMalformed_of_fieldReferenceToSource {reference : String} {why : Failure}
    (refused : fieldReferenceToSource reference = .error why) : why.isMalformed := by
  unfold fieldReferenceToSource at refused
  rcases bind_eq_error_iff.1 refused with inOwner | ⟨⟨owner, member⟩, _, inMember⟩
  · exact isMalformed_of_splitMember inOwner
  · dsimp only at inMember
    split at inMember
    · split at inMember
      · cases inMember
        rfl
      · rcases bind_eq_error_iff.1 inMember with inType | ⟨_, _, impossible⟩
        · exact isMalformed_of_typeNameToSource inType
        · cases impossible
    · cases inMember
      rfl

theorem methodReferences_convertExactly :
    ConvertsExactly methodReferenceToSource MethodReference.text
      fun r => r.symbol.signature :=
  convertsExactly_of_renders MethodReference.text_injective
    MethodReference.methodReferenceToSource_text
    MethodReference.exists_of_methodReferenceToSource isMalformed_of_methodReferenceToSource

theorem fieldReferences_convertExactly :
    ConvertsExactly fieldReferenceToSource FieldReference.text fun r => r.symbol.signature :=
  convertsExactly_of_renders FieldReference.text_injective
    FieldReference.fieldReferenceToSource_text
    FieldReference.exists_of_fieldReferenceToSource isMalformed_of_fieldReferenceToSource

/-- Both kinds of member references are converted exactly, to the signatures that the
symbols themselves write. -/
theorem references_convertExactly :
    ConvertsExactly methodReferenceToSource MethodReference.text
        (fun r => r.symbol.signature) ∧
      ConvertsExactly fieldReferenceToSource FieldReference.text
        fun r => r.symbol.signature :=
  ⟨methodReferences_convertExactly, fieldReferences_convertExactly⟩

end ClassAtlas
