import ClassAtlas.Proofs.Descriptor.Reading

/-! The readers of descriptors accept exactly the written forms of well-formed
values, each as the value it was written from. Every other text is refused, and the
refusal quotes it whole. -/
namespace ClassAtlas

/-- `parse` inverts `encode` on well-formed values and refuses all texts that `encode`
does not write for one of them. -/
structure ReadsExactly {α : Type} (parse : String → Except Failure α) (WellFormed : α → Prop)
    (encode : α → List Char) : Prop where
  accepts : ∀ text a, parse text = .ok a ↔ WellFormed a ∧ text = String.ofList (encode a)
  refuses : ∀ text, parse text = .error (.malformedDescriptor text) ↔
    ∀ a, WellFormed a → text ≠ String.ofList (encode a)

theorem readsExactly_of_accepts {α : Type} {parse : String → Except Failure α}
    {WellFormed : α → Prop} {encode : α → List Char}
    (accepts : ∀ text a, parse text = .ok a ↔ WellFormed a ∧ text = String.ofList (encode a))
    (quotes : ∀ text why, parse text = .error why → why = .malformedDescriptor text) :
    ReadsExactly parse WellFormed encode where
  accepts := accepts
  refuses text := by
    constructor
    · intro refused a wellFormed written
      rw [(accepts text a).2 ⟨wellFormed, written⟩] at refused
      cases refused
    · intro foreign
      cases parsed : parse text with
      | ok a =>
        obtain ⟨wellFormed, written⟩ := (accepts text a).1 parsed
        exact absurd written (foreign a wellFormed)
      | error why => rw [quotes text why parsed]

theorem TypeDescriptor.quotes_of_parse {text : String} {why : Failure}
    (refused : parse text = .error why) : why = .malformedDescriptor text := by
  unfold parse at refused
  split at refused
  · cases refused
  · exact (Except.error.inj refused).symm

namespace MethodDescriptor

/-- The parameters that are read were written one after the other, up to the closing
parenthesis. -/
theorem readParameters_eq_some {text rest : List Char} {parameters : List TypeDescriptor}
    (found : readParameters text = some (parameters, rest)) :
    (∀ p ∈ parameters, p ≠ .void ∧ p.WellFormed) ∧
      text = parameters.flatMap TypeDescriptor.encode ++ ')' :: rest := by
  fun_induction readParameters text generalizing parameters with
  | case1 after =>
    cases found
    exact ⟨by simp, rfl⟩
  | case2 text notClosing first after read ih =>
    obtain ⟨later, foundLater, same⟩ := Option.map_eq_some_iff.1 found
    cases same
    obtain ⟨wellFormedFirst, glued, voidOk⟩ := TypeDescriptor.read_eq_some read
    obtain ⟨wellFormedLater, gluedLater⟩ := ih foundLater
    constructor
    · rw [List.forall_mem_cons]
      exact ⟨⟨fun isVoid => by simpa using voidOk isVoid, wellFormedFirst⟩, wellFormedLater⟩
    · rw [glued, gluedLater, List.flatMap_cons, List.append_assoc]
  | case3 => cases found

theorem read?_eq_some_iff {text : List Char} {d : MethodDescriptor} :
    read? text = some d ↔ d.WellFormed ∧ text = d.encode := by
  constructor
  · intro found
    unfold read? at found
    split at found
    · next inside =>
      split at found
      · next parameters rest foundParameters =>
        split at found
        · next result foundResult =>
          cases found
          obtain ⟨parametersOk, glued⟩ := readParameters_eq_some foundParameters
          obtain ⟨resultOk, written, _⟩ := TypeDescriptor.read_eq_some foundResult
          refine ⟨⟨parametersOk, resultOk⟩, ?_⟩
          rw [glued, written, List.append_nil]
          rfl
        · cases found
      · cases found
    · cases found
  · rintro ⟨wellFormed, rfl⟩
    exact read?_encode wellFormed

theorem parse_eq_ok_iff {text : String} {d : MethodDescriptor} :
    parse text = .ok d ↔ d.WellFormed ∧ text = String.ofList d.encode := by
  rw [← String.toList_inj, String.toList_ofList, ← read?_eq_some_iff]
  unfold parse
  cases read? text.toList <;> simp

theorem quotes_of_parse {text : String} {why : Failure} (refused : parse text = .error why) :
    why = .malformedDescriptor text := by
  unfold parse at refused
  split at refused
  · cases refused
  · exact (Except.error.inj refused).symm

end MethodDescriptor

/-- Both grammars are read exactly: of types, where void may stand alone, and of method
descriptors, where it may be the result. An object name is any text that leaves out the
four marks of the grammar. -/
theorem descriptors_readExactly :
    ReadsExactly TypeDescriptor.parse TypeDescriptor.WellFormed TypeDescriptor.encode ∧
      ReadsExactly MethodDescriptor.parse MethodDescriptor.WellFormed MethodDescriptor.encode ∧
      ∀ name, (TypeDescriptor.object name).WellFormed ↔
        name ≠ [] ∧ ';' ∉ name ∧ '(' ∉ name ∧ ')' ∉ name ∧ '[' ∉ name :=
  ⟨readsExactly_of_accepts (fun _ _ => TypeDescriptor.parse_eq_ok_iff)
      fun _ _ => TypeDescriptor.quotes_of_parse,
    readsExactly_of_accepts (fun _ _ => MethodDescriptor.parse_eq_ok_iff)
      fun _ _ => MethodDescriptor.quotes_of_parse,
    fun _ => isObjectName_iff⟩

end ClassAtlas
