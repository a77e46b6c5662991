import ClassAtlas.Proofs.Instance.MemberRefusal
import ClassAtlas.Proofs.Instance.Run
import ClassAtlas.Proofs.Reference.Rendering

/-! The dialect of an argument makes no difference to a question. A binary argument is
converted before anything is looked up, and what it is converted to is taken as it is,
so the two lead to the same answer, or the same failure, and the same cache. -/
namespace ClassAtlas

/-- A class in the binary dialect, and the name it is converted to. -/
structure ClassTranslates (descriptor name : String) : Prop where
  binary : classify descriptor = .ok .binary
  accepted : typeNameToSource descriptor = .ok name

/-- A method in the binary dialect, and the signature it is converted to. A slash in the
name of the method would be copied and make the signature binary too. -/
structure MethodTranslates (reference signature : String) : Prop where
  binary : classify reference = .ok .binary
  accepted : methodReferenceToSource reference = .ok signature
  plain : ∀ r : MethodReference, r.text = reference → '/' ∉ r.name

structure FieldTranslates (reference signature : String) : Prop where
  binary : classify reference = .ok .binary
  accepted : fieldReferenceToSource reference = .ok signature
  plain : ∀ r : FieldReference, r.text = reference → '/' ∉ r.name

theorem ClassTranslates.normalize_eq {descriptor name : String}
    (same : ClassTranslates descriptor name) :
    normalizeClassName descriptor = normalizeClassName name :=
  inSource_eq_of_converted same.binary same.accepted (classify_of_typeNameToSource same.accepted)

theorem MethodTranslates.normalize_eq {reference signature : String}
    (same : MethodTranslates reference signature) :
    normalizeMethod reference = normalizeMethod signature := by
  obtain ⟨r, written, rfl⟩ := methodReferences_convertExactly.eq_ok_iff.1 same.accepted
  exact inSource_eq_of_converted same.binary same.accepted
    (MethodReference.classify_signature (same.plain r written))

theorem FieldTranslates.normalize_eq {reference signature : String}
    (same : FieldTranslates reference signature) :
    normalizeField reference = normalizeField signature := by
  obtain ⟨r, written, rfl⟩ := fieldReferences_convertExactly.eq_ok_iff.1 same.accepted
  exact inSource_eq_of_converted same.binary same.accepted
    (FieldReference.classify_signature (same.plain r written))

/-- The same question about a class, a member of a class or an interface, asked in the
binary and in the source dialect. -/
inductive Question.Translates : Question → Question → Prop where
  | superclass {d s : String} (c : ClassTranslates d s) :
      Translates (.superclass d) (.superclass s)
  | interfaces {d s : String} (c : ClassTranslates d s) :
      Translates (.interfaces d) (.interfaces s)
  | classMethods {d s : String} (c : ClassTranslates d s) :
      Translates (.classMethods d) (.classMethods s)
  | classFields {d s : String} (c : ClassTranslates d s) :
      Translates (.classFields d) (.classFields s)
  | classCallers {d s : String} (c : ClassTranslates d s) :
      Translates (.classCallers d) (.classCallers s)
  | classSource {d s : String} (c : ClassTranslates d s) :
      Translates (.classSource d) (.classSource s)
  | methodSource {d s r t : String} (c : ClassTranslates d s) (m : MethodTranslates r t) :
      Translates (.methodSource d r) (.methodSource s t)
  | methodCallers {d s r t : String} (c : ClassTranslates d s) (m : MethodTranslates r t) :
      Translates (.methodCallers d r) (.methodCallers s t)
  | methodOverrides {d s r t : String} (c : ClassTranslates d s) (m : MethodTranslates r t) :
      Translates (.methodOverrides d r) (.methodOverrides s t)
  | fieldCallers {d s r t : String} (c : ClassTranslates d s) (f : FieldTranslates r t) :
      Translates (.fieldCallers d r) (.fieldCallers s t)
  | aidlInterface {d s : String} (c : ClassTranslates d s) (force : Bool) :
      Translates (.aidlInterface d force) (.aidlInterface s force)
  | aidlMethods {d s : String} (c : ClassTranslates d s) :
      Translates (.aidlMethods d) (.aidlMethods s)
  | aidlImplementation {d s : String} (c : ClassTranslates d s) :
      Translates (.aidlImplementation d) (.aidlImplementation s)

namespace ProgramInstance

section SameNames
variable (i : ProgramInstance) {d s r t : String}
  (sameClass : normalizeClassName d = normalizeClassName s)
include sameClass

theorem findClass_congr : i.findClass d = i.findClass s := by
  rw [findClass, findClass, sameClass]

theorem lookup_congr {α : Type} (kind : MemberKind α)
    (sameMember : kind.signature r = kind.signature t) :
    kind.lookup i d r = kind.lookup i s t := by
  rw [MemberKind.lookup, MemberKind.lookup, findMember, findMember, i.findClass_congr sameClass,
    sameMember]

theorem aidlInterface_congr (force : Bool) :
    i.aidlInterface d force = i.aidlInterface s force := by
  rw [aidlInterface, aidlInterface, sameClass]

end SameNames

theorem ask_eq_of_translates {q q' : Question} (same : q.Translates q') (i : ProgramInstance) :
    i.ask q = i.ask q' := by
  have alike {d s : String} (c : ClassTranslates d s) : i.AnswersAlike d s :=
    answersAlike_of_findClass_eq (i.findClass_congr c.normalize_eq)
  have sameMethod {d s r t : String} (c : ClassTranslates d s) (m : MethodTranslates r t) :
      i.findMethod d r = i.findMethod s t := by
    rw [findMethod_eq_lookup, findMethod_eq_lookup]
    exact i.lookup_congr c.normalize_eq .method m.normalize_eq
  have sameField {d s r t : String} (c : ClassTranslates d s) (f : FieldTranslates r t) :
      i.findField d r = i.findField s t := by
    rw [findField_eq_lookup, findField_eq_lookup]
    exact i.lookup_congr c.normalize_eq .field f.normalize_eq
  have sameInterface {d s : String} (c : ClassTranslates d s) (force : Bool) :
      i.aidlInterface d force = i.aidlInterface s force :=
    i.aidlInterface_congr c.normalize_eq force
  cases same with
  | superclass c => simp only [ask, (alike c).superclass]
  | interfaces c => simp only [ask, (alike c).interfaces]
  | classMethods c => simp only [ask, (alike c).classMethods]
  | classFields c => simp only [ask, (alike c).classFields]
  | classCallers c => simp only [ask, (alike c).classCallers]
  | classSource c => simp only [ask, (alike c).classSource]
  | methodSource c m => simp only [ask, methodSource, sameMethod c m]
  | methodCallers c m => simp only [ask, methodCallers, sameMethod c m]
  | methodOverrides c m => simp only [ask, methodOverrides, sameMethod c m]
  | fieldCallers c f => simp only [ask, fieldCallers, sameField c f]
  | aidlInterface c force => simp only [ask, sameInterface c]
  | aidlMethods c => simp only [ask, aidlMethods, sameInterface c]
  | aidlImplementation c => simp only [ask, aidlImplementation, sameInterface c]

/-! An anonymous class with a method that is listed twice and a field. -/

def listenerRun : MethodSymbol where
  name := "run"
  params := ["int[]"]
  returnType := "void"
  declaringClass := "com.example.Outer.AnonymousClass3"
  usedIn := ["com.example.Main.main():void"]

def listenerCounts : FieldSymbol where
  name := "counts"
  fieldType := "java.util.Map<java.lang.String, int[]>"
  declaringClass := "com.example.Outer.AnonymousClass3"
  usedIn := ["com.example.Outer.AnonymousClass3.run(int[]):void"]

def listener : ClassSymbol where
  fullName := "com.example.Outer.AnonymousClass3"
  methods := [listenerRun, { listenerRun with usedIn := [] }]
  fields := [listenerCounts]

def outer : ClassSymbol where
  fullName := "com.example.Outer"
  innerClasses := [listener]

def outerInstance : ProgramInstance :=
  bind ⟨"outer", "model.json", Snapshot.provider, none⟩ (.ofClasses [outer] none)

def runReference : MethodReference where
  owner := "com/example/Outer$3".toList
  name := "run".toList
  descriptor := ⟨[.array (.primitive .int)], .void⟩
  owner_ok := by decide
  name_ne_nil := by decide
  name_plain := by decide
  wellFormed := by
    refine ⟨?_, trivial⟩
    rw [List.forall_mem_singleton]
    exact ⟨by decide, by decide, trivial⟩

theorem methodTranslates_run :
    MethodTranslates "Lcom/example/Outer$3;->run([I)V"
      "com.example.Outer.AnonymousClass3.run(int[]):void" where
  binary := rfl
  accepted := runReference.methodReferenceToSource_text
  plain r written := by
    have same : r = runReference := MethodReference.text_injective written
    rw [same]
    decide

theorem ask_methodCallers_of_run :
    outerInstance.ask
        (.methodCallers "Lcom/example/Outer$3;" "Lcom/example/Outer$3;->run([I)V") =
      outerInstance.ask
        (.methodCallers "com.example.Outer.AnonymousClass3"
          "com.example.Outer.AnonymousClass3.run(int[]):void") ∧
      outerInstance.methodCallers "com.example.Outer.AnonymousClass3"
          "com.example.Outer.AnonymousClass3.run(int[]):void" =
        .ok ["com.example.Main.main():void"] := by
  have sameClass : ClassTranslates "Lcom/example/Outer$3;" "com.example.Outer.AnonymousClass3" :=
    ⟨rfl, rfl⟩
  exact ⟨ask_eq_of_translates (.methodCallers sameClass methodTranslates_run) outerInstance, rfl⟩

end ProgramInstance

end ClassAtlas
