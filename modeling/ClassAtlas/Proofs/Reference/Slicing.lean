import ClassAtlas.Proofs.Descriptor.Slicing
import ClassAtlas.Proofs.Reference.Grammar

/-! References read and converted by the offsets of their bytes. Where a member, its name and its
descriptor begin is found among the bytes, from the length of the owner or with one added for the
mark itself. A slice at a bad offset would break the computation down. None does: by offsets each
conversion has the outcome that it has on characters, for every text. -/
namespace ClassAtlas.ByOffset
open Text

/-- A computation that may break down, and otherwise succeeds or fails. -/
abbrev Attempt := ExceptT Failure (Except Breakdown)

def parseType (text : String) : Attempt TypeDescriptor := do
  match ← read true text with
  | some (t, rest) => if rest.isEmpty then return t else throw (.malformedDescriptor text)
  | none => throw (.malformedDescriptor text)

def parseMethod (text : String) : Attempt MethodDescriptor := do
  match ← readMethod text with
  | some d => return d
  | none => throw (.malformedDescriptor text)

def typeNameToSource (descriptor : String) : Attempt String := do
  sourceName (← parseType descriptor)

/-- The class descriptor at the start of a text, with its semicolon. -/
def leadingDescriptor (text : String) : Except Breakdown (Option String) :=
  if startsWith ['L'] text then
    match firstOffset [';'] text with
    | some stop => do
      if 1 < stop then return some (← sliceTo text (stop + 1)) else return none
    | none => return none
  else return none

def splitMember (reference : String) : Attempt (String × String) := do
  match ← leadingDescriptor reference with
  | some owner =>
    match ← sliceAfter memberArrow (← sliceFrom reference owner.utf8ByteSize) with
    | some member => return (← typeNameToSource owner, member)
    | none => throw (.malformedReference reference)
  | none => throw (.malformedReference reference)

def methodReferenceToSource (reference : String) : Attempt String := do
  let (owner, member) ← splitMember reference
  match firstOffset ['('] member with
  | some parenthesis =>
    if parenthesis = 0 then throw (.malformedReference reference)
    let name ← sliceTo member parenthesis
    let d ← parseMethod (← sliceFrom member parenthesis)
    let parameters ← (d.parameters.mapM sourceName : Except Breakdown (List String))
    let result ← sourceName d.result
    return owner ++ "." ++ name ++ "(" ++ ", ".intercalate parameters ++ "):" ++ result
  | none => throw (.malformedReference reference)

def fieldReferenceToSource (reference : String) : Attempt String := do
  let (owner, member) ← splitMember reference
  match firstOffset [':'] member with
  | some colon =>
    let name ← sliceTo member colon
    let descriptor ← sliceFrom member (colon + 1)
    if name.isEmpty || descriptor.isEmpty then throw (.malformedReference reference)
    let type ← typeNameToSource descriptor
    return owner ++ "." ++ name ++ " :" ++ type
  | none => throw (.malformedReference reference)

/-- The part of a source signature before its parameter list or its field type. -/
def signatureHead (reference : String) : Except Breakdown String :=
  match (firstOffset ['('] reference).or (firstOffset fieldMark reference) with
  | some stop => sliceTo reference stop
  | none => return reference

def ownerInSource (reference : String) : Except Breakdown (Option String) := do
  let head ← signatureHead reference
  match lastOffset '.' head with
  | some dot => if 0 < dot then return some (← sliceTo head dot) else return none
  | none => return none

/-- The outcome of a computation that did not break down. -/
def settled {α : Type} (outcome : Except Failure α) : Attempt α :=
  ExceptT.mk (.ok outcome)

section Steps
variable {α β : Type} (a : α)

theorem ok_bind (next : α → Except Failure β) : (Except.ok a >>= next) = next a := rfl

theorem settled_bind (next : α → Attempt β) : (settled (.ok a) >>= next) = next a := rfl

theorem lift_bind (next : α → Attempt β) :
    ((liftM (Except.ok a : Except Breakdown α) : Attempt α) >>= next) = next a := rfl

end Steps

theorem parseType_eq (text : String) : parseType text = settled (TypeDescriptor.parse text) := by
  rw [parseType, read_eq, TypeDescriptor.parse]
  cases TypeDescriptor.read true text.toList with
  | none => rfl
  | some found =>
    obtain ⟨t, rest⟩ := found
    simp only [Option.map_some, asText, lift_bind]
    cases rest with
    | nil => rfl
    | cons c rest => rw [isEmpty_eq, String.toList_ofList]; rfl

theorem parseMethod_eq (text : String) :
    parseMethod text = settled (MethodDescriptor.parse text) := by
  rw [parseMethod, readMethod_eq, MethodDescriptor.parse]
  cases MethodDescriptor.read? text.toList <;> rfl

theorem typeNameToSource_eq (descriptor : String) :
    typeNameToSource descriptor = settled (ClassAtlas.typeNameToSource descriptor) := by
  rw [typeNameToSource, parseType_eq, ClassAtlas.typeNameToSource]
  cases TypeDescriptor.parse descriptor with
  | error why => rfl
  | ok t =>
    change (liftM (sourceName t) : Attempt String) = _
    rw [sourceName_eq]
    rfl

/-! Owners. -/

theorem eq_append_of_leadingOwner {text : String} {name rest : List Char}
    (leading : leadingOwner text.toList = some (name, rest)) :
    text = ownerDescriptor name ++ String.ofList rest := by
  rw [ownerDescriptor, ← String.ofList_append, ← (leadingOwner_eq_some_iff.1 leading).2.2,
    String.ofList_toList]

theorem leadingDescriptor_object (rest : List Char) :
    leadingDescriptor (String.ofList ('L' :: rest)) =
      .ok ((leadingOwner ('L' :: rest)).map fun found => ownerDescriptor found.1) := by
  have starts : startsWith ['L'] (String.ofList ('L' :: rest)) := by
    rw [startsWith_iff (by decide), String.toList_ofList]
    exact List.prefix_append ['L'] rest
  rw [leadingDescriptor, if_pos starts, firstOffset_object, leadingOwner]
  cases cut : cutFirst ';' rest with
  | none => rfl
  | some parts =>
    obtain ⟨name, after⟩ := parts
    have owner : sliceTo (String.ofList ('L' :: rest))
        ((String.ofList ('L' :: name)).utf8ByteSize + 1) = .ok (ownerDescriptor name) := by
      have written : ownerDescriptor name = String.ofList ('L' :: name) ++ String.ofList [';'] :=
        String.ofList_append
      have size : (String.ofList ('L' :: name)).utf8ByteSize + 1 =
          (ownerDescriptor name).utf8ByteSize := by
        rw [written, String.utf8ByteSize_append]
        rfl
      rw [ofList_object cut, ← written, size]
      exact sliceTo_append _ _
    cases name with
    | nil => rfl
    | cons c more =>
      have long : 1 < (String.ofList ('L' :: c :: more)).utf8ByteSize := by
        have positive : (String.ofList (c :: more)).utf8ByteSize ≠ 0 := by
          rw [Ne, String.utf8ByteSize_eq_zero_iff, String.ofList_eq_empty_iff]
          exact List.cons_ne_nil c more
        rw [utf8ByteSize_cons (by decide)]
        omega
      simp only [Option.map_some, if_pos long, owner]
      rfl

theorem leadingDescriptor_eq (text : String) :
    leadingDescriptor text =
      .ok ((leadingOwner text.toList).map fun found => ownerDescriptor found.1) := by
  by_cases opening : ['L'] <+: text.toList
  · obtain ⟨inside, glued⟩ := opening
    rw [← String.ofList_toList (s := text), ← glued, String.toList_ofList]
    exact leadingDescriptor_object inside
  · have unread : leadingOwner text.toList = none := by
      rw [leadingOwner]
      intro inside glued
      exact opening (glued ▸ List.prefix_append ['L'] inside)
    rw [leadingDescriptor, if_neg (mt (startsWith_iff (by decide)).1 opening), unread]
    rfl

theorem splitMember_eq (reference : String) :
    splitMember reference = settled ((ClassAtlas.splitMember reference).map asText) := by
  rw [splitMember, leadingDescriptor_eq]
  cases leading : leadingOwner reference.toList with
  | none =>
    rw [ClassAtlas.splitMember, leading]
    rfl
  | some found =>
    obtain ⟨name, rest⟩ := found
    have behind : sliceFrom reference (ownerDescriptor name).utf8ByteSize =
        .ok (String.ofList rest) := by
      rw [eq_append_of_leadingOwner leading]
      exact sliceFrom_append _ _
    simp only [Option.map_some, lift_bind, behind]
    by_cases arrow : memberArrow <+: rest
    · obtain ⟨member, rfl⟩ := arrow
      have onChars : ClassAtlas.splitMember reference =
          (ClassAtlas.typeNameToSource (ownerDescriptor name)).map
            fun owner => (owner, member) := by
        rw [ClassAtlas.splitMember, leading]
        rfl
      rw [String.ofList_append, sliceAfter_append (by decide), onChars]
      simp only [lift_bind, typeNameToSource_eq]
      cases ClassAtlas.typeNameToSource (ownerDescriptor name) <;> rfl
    · have onChars :
          ClassAtlas.splitMember reference = .error (.malformedReference reference) := by
        rw [ClassAtlas.splitMember, leading]
        split
        · next glued =>
          cases glued
          exact absurd (List.prefix_append memberArrow _) arrow
        · rfl
      rw [sliceAfter_of_absent (by decide) (by rwa [String.toList_ofList]), onChars]
      rfl

/-! Members. -/

theorem mapM_sourceName (types : List TypeDescriptor) :
    types.mapM sourceName = .ok (types.map TypeDescriptor.sourceName) := by
  have sourceNames : sourceName = fun t => pure t.sourceName := funext sourceName_eq
  rw [sourceNames, List.mapM_pure]
  rfl

theorem utf8ByteSize_eq_zero_iff {text : List Char} :
    (String.ofList text).utf8ByteSize = 0 ↔ text = [] := by
  rw [String.utf8ByteSize_eq_zero_iff, String.ofList_eq_empty_iff]

theorem methodText_eq (owner : String) (name : List Char) (d : MethodDescriptor) :
    owner ++ "." ++ String.ofList name ++ "(" ++
        ", ".intercalate (d.parameters.map TypeDescriptor.sourceName) ++ "):" ++
          d.result.sourceName =
      String.ofList
        (owner.toList ++ '.' :: name ++
          '(' :: [',', ' '].intercalate (d.parameters.map TypeDescriptor.sourceChars) ++
            ')' :: ':' :: d.result.sourceChars) := by
  rw [← String.toList_inj]
  simp [String.toList_intercalate, TypeDescriptor.sourceName, Function.comp_def]

theorem methodReferenceToSource_eq (reference : String) :
    methodReferenceToSource reference =
      settled (ClassAtlas.methodReferenceToSource reference) := by
  rw [methodReferenceToSource, splitMember_eq, ClassAtlas.methodReferenceToSource]
  cases ClassAtlas.splitMember reference with
  | error why => rfl
  | ok parts =>
    obtain ⟨owner, member⟩ := parts
    simp only [Except.map, asText, settled_bind, ok_bind]
    rw [firstOffset_singleton (by decide), String.toList_ofList]
    cases cut : cutFirst '(' member with
    | none => rfl
    | some found =>
      obtain ⟨name, inside⟩ := found
      have glued := ofList_of_cutFirst cut
      simp only [Option.map_some, glued, sliceTo_append, sliceFrom_append, lift_bind,
        parseMethod_eq, utf8ByteSize_eq_zero_iff]
      cases name with
      | nil => rfl
      | cons c more =>
        cases MethodDescriptor.parse (String.ofList ('(' :: inside)) with
        | error why => rfl
        | ok d =>
          simp only [List.cons_ne_nil, if_false, settled_bind, ok_bind, mapM_sourceName,
            sourceName_eq, lift_bind, methodText_eq]
          rfl

theorem fieldText_eq (owner type : String) (name : List Char) :
    owner ++ "." ++ String.ofList name ++ " :" ++ type =
      String.ofList (owner.toList ++ '.' :: name ++ fieldMark ++ type.toList) := by
  rw [← String.toList_inj]
  simp [fieldMark]

theorem fieldReferenceToSource_eq (reference : String) :
    fieldReferenceToSource reference =
      settled (ClassAtlas.fieldReferenceToSource reference) := by
  rw [fieldReferenceToSource, splitMember_eq, ClassAtlas.fieldReferenceToSource]
  cases ClassAtlas.splitMember reference with
  | error why => rfl
  | ok parts =>
    obtain ⟨owner, member⟩ := parts
    simp only [Except.map, asText, settled_bind, ok_bind]
    rw [firstOffset_singleton (by decide), String.toList_ofList]
    cases cut : cutFirst ':' member with
    | none => rfl
    | some found =>
      obtain ⟨name, descriptor⟩ := found
      have glued : String.ofList member =
          String.ofList name ++ String.ofList [':'] ++ String.ofList descriptor := by
        have marked : String.ofList (':' :: descriptor) =
            String.ofList [':'] ++ String.ofList descriptor := by
          rw [← String.ofList_append, List.singleton_append]
        rw [ofList_of_cutFirst cut, marked, String.append_assoc]
      simp only [Option.map_some, glued, sliceTo_mark, sliceFrom_mark (m := ':') (by decide),
        lift_bind, isEmpty_eq, String.toList_ofList, typeNameToSource_eq]
      cases missing : name.isEmpty || descriptor.isEmpty with
      | true => rfl
      | false =>
        cases ClassAtlas.typeNameToSource (String.ofList descriptor) with
        | error why => rfl
        | ok type =>
          simp only [settled_bind, ok_bind, fieldText_eq]
          rfl

/-! Owners of source signatures. -/

theorem signatureHead_eq (reference : String) :
    signatureHead reference = .ok (String.ofList (ClassAtlas.signatureHead reference.toList)) := by
  rw [signatureHead, ClassAtlas.signatureHead, firstOffset_singleton (by decide)]
  cases cut : cutFirst '(' reference.toList with
  | some parts =>
    have glued : reference = String.ofList parts.1 ++ String.ofList ('(' :: parts.2) := by
      rw [← ofList_of_cutFirst cut, String.ofList_toList]
    rw [Option.map_some, Option.some_or]
    dsimp only
    rw [glued]
    exact sliceTo_append _ _
  | none =>
    rw [Option.map_none, Option.none_or]
    rcases firstOffset_cases (show IsAscii [' ', ':'] by decide) reference with
      ⟨absent, cut⟩ | ⟨head, type, glued, found, cut⟩
    · rw [fieldMark, absent, cut, String.ofList_toList]
      rfl
    · rw [fieldMark, found, cut, String.ofList_toList, glued]
      exact sliceTo_mark _ _ _

theorem ownerInSource_eq (reference : String) :
    ownerInSource reference = .ok (ClassAtlas.ownerInSource reference) := by
  rw [ownerInSource, signatureHead_eq, ClassAtlas.ownerInSource]
  generalize ClassAtlas.signatureHead reference.toList = head
  have cases := lastOffset_cases (m := '.') (by decide) (String.ofList head)
  rw [String.toList_ofList] at cases
  rcases cases with ⟨absent, cut⟩ | ⟨owner, name, glued, found, cut⟩
  · simp only [bind, Except.bind, absent, cut]
    rfl
  · rw [glued] at found
    simp only [bind, Except.bind, glued, found, cut, sliceTo_mark, String.ofList_toList]
    by_cases nameless : owner = ""
    · rw [nameless]
      rfl
    · have named : 0 < owner.utf8ByteSize := by
        rwa [Nat.pos_iff_ne_zero, Ne, String.utf8ByteSize_eq_zero_iff]
      have nonempty : ¬ owner.toList.isEmpty := by
        rwa [← isEmpty_eq, String.isEmpty_iff]
      rw [if_pos named, if_neg nonempty]
      rfl

/-! Refusals. -/

/-- If a text is refused, it is because it is malformed. -/
def RefusedAsMalformed {α : Type} (outcome : Except Failure α) : Prop :=
  ∀ why, outcome = .error why → why.isMalformed

theorem infer_refused (text : String) : RefusedAsMalformed (Signature.infer text) := by
  intro why refused
  rcases bind_eq_error_iff.1 refused with unclassified | ⟨_, _, impossible⟩
  · exact isMalformed_of_classify unclassified
  · cases impossible

theorem typeParse_refused (text : String) : RefusedAsMalformed (TypeDescriptor.parse text) := by
  intro why refused
  rw [TypeDescriptor.quotes_of_parse refused]
  rfl

theorem methodParse_refused (text : String) :
    RefusedAsMalformed (MethodDescriptor.parse text) := by
  intro why refused
  rw [MethodDescriptor.quotes_of_parse refused]
  rfl

theorem toSource_refused (text : String) : RefusedAsMalformed (toSource text) := by
  intro why refused
  rcases bind_eq_error_iff.1 refused with uninferred | ⟨signature, _, unconverted⟩
  · exact infer_refused text why uninferred
  · split at unconverted
    · exact isMalformed_of_typeNameToSource unconverted
    · exact isMalformed_of_methodReferenceToSource unconverted
    · exact isMalformed_of_fieldReferenceToSource unconverted
    · cases unconverted

theorem owningClass_refused (text : String) : RefusedAsMalformed (owningClass text) := by
  intro why refused
  rcases bind_eq_error_iff.1 refused with unclassified | ⟨dialect, _, unowned⟩
  · exact isMalformed_of_classify unclassified
  · cases dialect with
    | binary =>
      dsimp only at unowned
      split at unowned
      · exact isMalformed_of_typeNameToSource unowned
      · cases unowned
        rfl
    | source =>
      dsimp only at unowned
      split at unowned
      · cases unowned
      · cases unowned
        rfl

/-- What is computed by offsets is what is computed on characters: no computation breaks down, so
each slice it takes is in range and on the bounds of characters. -/
structure NeverBreaksDown (text : String) : Prop where
  type : ∀ allowVoid,
    read allowVoid text = .ok ((TypeDescriptor.read allowVoid text.toList).map asText)
  parameters : ∀ rounds, text.utf8ByteSize < rounds →
    readParameters rounds text =
      .ok ((MethodDescriptor.readParameters text.toList).map asText)
  method : readMethod text = .ok (MethodDescriptor.read? text.toList)
  typeDescriptor : parseType text = settled (TypeDescriptor.parse text)
  methodDescriptor : parseMethod text = settled (MethodDescriptor.parse text)
  syntheticName : normalizeSynthetic text =
    .ok (String.ofList (ClassAtlas.normalizeSynthetic text.toList))
  typeName : typeNameToSource text = settled (ClassAtlas.typeNameToSource text)
  sourceOwner : ownerInSource text = .ok (ClassAtlas.ownerInSource text)
  leadingOwner : leadingDescriptor text =
    .ok ((leadingOwner text.toList).map fun found => ownerDescriptor found.1)
  member : splitMember text = settled ((ClassAtlas.splitMember text).map asText)
  methodReference :
    methodReferenceToSource text = settled (ClassAtlas.methodReferenceToSource text)
  fieldReference :
    fieldReferenceToSource text = settled (ClassAtlas.fieldReferenceToSource text)

theorem neverBreaksDown (text : String) : NeverBreaksDown text where
  type allowVoid := read_eq allowVoid text
  parameters _ enough := readParameters_eq enough
  method := readMethod_eq text
  typeDescriptor := parseType_eq text
  methodDescriptor := parseMethod_eq text
  syntheticName := normalizeSynthetic_eq text
  typeName := typeNameToSource_eq text
  sourceOwner := ownerInSource_eq text
  leadingOwner := leadingDescriptor_eq text
  member := splitMember_eq text
  methodReference := methodReferenceToSource_eq text
  fieldReference := fieldReferenceToSource_eq text

/-- Reading by offsets never breaks down. A type that is read leaves a shorter end of the text, and
what is refused, is refused because it is malformed. -/
theorem conversion_settles (text : String) :
    NeverBreaksDown text ∧
      (∀ allowVoid t rest, read allowVoid text = .ok (some (t, rest)) →
        rest.utf8ByteSize < text.utf8ByteSize ∧ ∃ consumed, text = consumed ++ rest) ∧
      RefusedAsMalformed (classify text) ∧
      RefusedAsMalformed (Signature.infer text) ∧
      RefusedAsMalformed (toSource text) ∧
      RefusedAsMalformed (TypeDescriptor.parse text) ∧
      RefusedAsMalformed (MethodDescriptor.parse text) ∧
      RefusedAsMalformed (ClassAtlas.typeNameToSource text) ∧
      RefusedAsMalformed (owningClass text) ∧
      RefusedAsMalformed (ClassAtlas.methodReferenceToSource text) ∧
      RefusedAsMalformed (ClassAtlas.fieldReferenceToSource text) := by
  refine ⟨neverBreaksDown text, ?_, fun _ => isMalformed_of_classify, infer_refused text,
    toSource_refused text, typeParse_refused text, methodParse_refused text,
    fun _ => isMalformed_of_typeNameToSource, owningClass_refused text,
    fun _ => isMalformed_of_methodReferenceToSource,
    fun _ => isMalformed_of_fieldReferenceToSource⟩
  intro allowVoid t rest found
  obtain ⟨shorter, glued⟩ := rest_of_read found
  exact ⟨shorter, _, glued⟩

end ClassAtlas.ByOffset
