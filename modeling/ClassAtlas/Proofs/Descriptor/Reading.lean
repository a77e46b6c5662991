import ClassAtlas.Descriptor
import ClassAtlas.Proofs.Text.Cut

/-! Reading a written descriptor gives it back, whatever text follows a type. -/
namespace ClassAtlas

theorem isObjectName_iff {name : List Char} :
    isObjectName name ↔
      name ≠ [] ∧ ';' ∉ name ∧ '(' ∉ name ∧ ')' ∉ name ∧ '[' ∉ name := by
  simp only [isObjectName, Bool.and_eq_true, List.all_eq_true, bne_iff_ne]
  grind

theorem Primitive.code_of_ofCode? {c : Char} {p : Primitive} (found : ofCode? c = some p) :
    c = p.code := by
  unfold ofCode? at found
  split at found <;> cases found <;> rfl

namespace TypeDescriptor

instance decidableWellFormed : (t : TypeDescriptor) → Decidable t.WellFormed
  | void | primitive _ => isTrue trivial
  | object name => inferInstanceAs (Decidable (isObjectName name = true))
  | array element =>
    have := decidableWellFormed element
    inferInstanceAs (Decidable (element ≠ void ∧ element.WellFormed))

theorem read_encode_append {allowVoid : Bool} {t : TypeDescriptor} (wellFormed : t.WellFormed)
    (voidOk : t = void → allowVoid = true) (rest : List Char) :
    read allowVoid (t.encode ++ rest) = some (t, rest) := by
  induction t generalizing allowVoid with
  | void => simp [encode, read, voidOk]
  | primitive p => cases p <;> rfl
  | object name =>
    have cut := Text.cutFirst_append (isObjectName_iff.1 wellFormed).2.1 rest
    have isName : isObjectName name = true := wellFormed
    simp [encode, read, cut, isName]
  | array element ih =>
    obtain ⟨notVoid, wellFormed⟩ := wellFormed
    have inner : read false (element.encode ++ rest) = some (element, rest) :=
      ih wellFormed fun void => absurd void notVoid
    simp [encode, read, inner]

theorem encode_ne_nil (t : TypeDescriptor) : t.encode ≠ [] := by
  cases t <;> simp [encode]

theorem parse_encode {t : TypeDescriptor} (wellFormed : t.WellFormed) :
    parse (String.ofList t.encode) = .ok t := by
  have found := read_encode_append wellFormed (fun _ => rfl) []
  rw [List.append_nil] at found
  simp [parse, found]

theorem encode_eq_object_iff {t : TypeDescriptor} {name : List Char} :
    t.encode = (object name).encode ↔ t = object name := by
  cases t with
  | primitive p => cases p <;> simp [encode, Primitive.code]
  | _ => simp [encode]

/-- What is read was written, by a well-formed type. -/
theorem read_eq_some {allowVoid : Bool} {text rest : List Char} {t : TypeDescriptor}
    (found : read allowVoid text = some (t, rest)) :
    t.WellFormed ∧ text = t.encode ++ rest ∧ (t = void → allowVoid = true) := by
  induction text generalizing allowVoid t with
  | nil => simp [read] at found
  | cons c tail ih =>
    unfold read at found
    split at found
    · next isVoid =>
      split at found
      · next allowed =>
        cases found
        exact ⟨trivial, by simp [encode, isVoid], fun _ => allowed⟩
      · cases found
    · split at found
      · next isObject =>
        split at found
        · next name after cut =>
          split at found
          · next isName =>
            cases found
            refine ⟨isName, ?_, by simp⟩
            rw [isObject, Text.cutFirst_eq cut]
            simp [encode]
          · cases found
        · cases found
      · split at found
        · next isArray =>
          obtain ⟨inner, foundInner, same⟩ := Option.map_eq_some_iff.1 found
          cases same
          obtain ⟨wellFormed, glued, voidOk⟩ := ih foundInner
          refine ⟨⟨fun isVoid => by simpa using voidOk isVoid, wellFormed⟩, ?_, by simp⟩
          rw [isArray, glued]
          rfl
        · obtain ⟨p, ofCode, same⟩ := Option.map_eq_some_iff.1 found
          cases same
          refine ⟨trivial, ?_, by simp⟩
          rw [Primitive.code_of_ofCode? ofCode]
          rfl

theorem parse_eq_ok_iff {text : String} {t : TypeDescriptor} :
    parse text = .ok t ↔ t.WellFormed ∧ text = String.ofList t.encode := by
  constructor
  · intro parsed
    unfold parse at parsed
    split at parsed
    · next u found =>
      cases parsed
      obtain ⟨wellFormed, glued, _⟩ := read_eq_some found
      rw [List.append_nil] at glued
      exact ⟨wellFormed, by rw [← glued, String.ofList_toList]⟩
    · cases parsed
  · rintro ⟨wellFormed, rfl⟩
    exact parse_encode wellFormed

end TypeDescriptor

namespace MethodDescriptor

instance (d : MethodDescriptor) : Decidable d.WellFormed :=
  inferInstanceAs (Decidable ((∀ p ∈ d.parameters, p ≠ .void ∧ p.WellFormed) ∧ _))

theorem readParameters_of_read {text rest : List Char} {first : TypeDescriptor}
    (found : TypeDescriptor.read false text = some (first, rest)) :
    readParameters text =
      (readParameters rest).map fun found => (first :: found.1, found.2) := by
  rw [readParameters.eq_def]
  split
  · next closing => simp [TypeDescriptor.read, Primitive.ofCode?] at found
  · split
    · next again => rw [found] at again; cases again; rfl
    · next missing => rw [found] at missing; cases missing

theorem readParameters_encode_append {parameters : List TypeDescriptor}
    (wellFormed : ∀ p ∈ parameters, p ≠ .void ∧ p.WellFormed) (rest : List Char) :
    readParameters (parameters.flatMap TypeDescriptor.encode ++ ')' :: rest) =
      some (parameters, rest) := by
  induction parameters with
  | nil => rw [List.flatMap_nil, List.nil_append, readParameters]
  | cons p tail ih =>
    obtain ⟨⟨notVoid, wellFormedHere⟩, wellFormedTail⟩ := List.forall_mem_cons.1 wellFormed
    rw [List.flatMap_cons, List.append_assoc]
    have found : TypeDescriptor.read false
        (p.encode ++ (tail.flatMap TypeDescriptor.encode ++ ')' :: rest)) =
          some (p, tail.flatMap TypeDescriptor.encode ++ ')' :: rest) :=
      TypeDescriptor.read_encode_append wellFormedHere (fun void => absurd void notVoid) _
    rw [readParameters_of_read found, ih wellFormedTail]
    rfl

theorem read?_encode {d : MethodDescriptor} (wellFormed : d.WellFormed) :
    read? d.encode = some d := by
  have parameters := readParameters_encode_append wellFormed.1 d.result.encode
  have result := TypeDescriptor.read_encode_append wellFormed.2 (fun _ => rfl) []
  rw [List.append_nil] at result
  simp [read?, encode, parameters, result]

theorem parse_encode {d : MethodDescriptor} (wellFormed : d.WellFormed) :
    parse (String.ofList d.encode) = .ok d := by
  simp [parse, read?_encode wellFormed]

end MethodDescriptor

end ClassAtlas
