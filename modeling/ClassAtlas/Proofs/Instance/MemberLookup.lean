import ClassAtlas.Proofs.Graph.Members
import ClassAtlas.Proofs.Instance.DialectIndependence
import ClassAtlas.Proofs.Instance.MemberRefusal
import ClassAtlas.Proofs.Reference.Owner

/-! A signature that a class lists can be asked about without naming the class: the
signature names it, and under both the class finds its first member of that signature. -/
namespace ClassAtlas

/-- A listed method whose signature shows its owner: the first parenthesis opens the
parameters, and the last dot before it precedes the name. -/
structure ClassSymbol.ListsMethod (c : ClassSymbol) (m : MethodSymbol) : Prop where
  listed : m ∈ c.methods
  source : classify m.signature = .ok .source
  owner_plain : '(' ∉ c.fullName.toList
  name_plain : '(' ∉ m.name.toList
  undotted : '.' ∉ m.name.toList

/-- A listed field whose signature shows its owner: no parenthesis makes it look like a
method, the first ` :` precedes the type, and the last dot before that the name. -/
structure ClassSymbol.ListsField (c : ClassSymbol) (f : FieldSymbol) : Prop where
  listed : f ∈ c.fields
  source : classify f.signature = .ok .source
  signature_plain : '(' ∉ f.signature.toList
  owner_plain : ¬ fieldMark <:+: c.fullName.toList
  name_plain : ':' ∉ f.name.toList
  undotted : '.' ∉ f.name.toList

section Owner
variable {c : ClassSymbol} (owns : c.OwnsMembers) (nonempty : c.fullName.toList ≠ [])
include owns nonempty

theorem memberOwner_of_listsMethod {m : MethodSymbol} (lists : c.ListsMethod m) :
    Command.memberOwner none m.signature = .ok c.fullName := by
  refine memberOwner_of_head lists.source nonempty ?_ lists.undotted
  rw [MethodSymbol.toList_signature, owns.methods m lists.listed, List.append_assoc,
    List.cons_append]
  exact signatureHead_method lists.owner_plain lists.name_plain

theorem memberOwner_of_listsField {f : FieldSymbol} (lists : c.ListsField f) :
    Command.memberOwner none f.signature = .ok c.fullName := by
  have plain := lists.signature_plain
  refine memberOwner_of_head lists.source nonempty ?_ lists.undotted
  rw [FieldSymbol.toList_signature, owns.fields f lists.listed] at plain ⊢
  exact signatureHead_field plain lists.owner_plain lists.name_plain

end Owner

namespace ProgramInstance

/-- A member of either kind that its class lists is looked up as the first one so written. -/
theorem lookup_of_listed {α : Type} (kind : MemberKind α) {i : ProgramInstance}
    {p : LoadedProgram} (loaded : i.program = some p) {c : ClassSymbol}
    (named : normalizeClassName c.fullName = .ok c.fullName)
    (found : p.graph.findClass? c.fullName = some c) {members : List α} {signature : α → String}
    (finds : ∀ s, kind.find? c s = members.find? fun other => signature other = s) {a : α}
    (listed : a ∈ members) (written : kind.signature (signature a) = .ok (signature a)) :
    ∃ first, members.find? (fun other => signature other = signature a) = some first ∧
      kind.lookup i c.fullName (signature a) = .ok first := by
  have present : (members.find? fun other => signature other = signature a).isSome :=
    List.find?_isSome.2 ⟨a, listed, by simp⟩
  obtain ⟨first, isFirst⟩ := Option.isSome_iff_exists.1 present
  refine ⟨first, isFirst, (lookup_eq_ok_iff loaded).2 ?_⟩
  exact ⟨c.fullName, c, signature a, named, found, written, (finds _).trans isFirst⟩

/-- In a normalized program every class that answers to its name is the owner that its
listed signatures name, and answers for them with the first member so written. -/
theorem listed_signatures_answer {i : ProgramInstance} {p : LoadedProgram}
    (loaded : i.program = some p) (built : p.graph.IsNormalized) {c : ClassSymbol}
    (first : p.graph.allClasses.find? (fun d => d.fullName = c.fullName) = some c)
    (named : classify c.fullName = .ok .source) :
    (∀ m, c.ListsMethod m →
      Command.memberOwner none m.signature = .ok c.fullName ∧
        ∃ found, c.methods.find? (fun other => other.signature = m.signature) = some found ∧
          i.methodCallers c.fullName m.signature = .ok found.usedIn ∧
          i.methodOverrides c.fullName m.signature = .ok found.overrides) ∧
    ∀ f, c.ListsField f →
      Command.memberOwner none f.signature = .ok c.fullName ∧
        ∃ found, c.fields.find? (fun other => other.signature = f.signature) = some found ∧
          i.fieldCallers c.fullName f.signature = .ok found.usedIn := by
  have owns : c.OwnsMembers := built.ownsMembers (List.mem_of_find?_eq_some first)
  have nonempty : c.fullName.toList ≠ [] := by
    intro empty
    rw [classify, empty] at named
    cases named
  have sourceName : normalizeClassName c.fullName = .ok c.fullName := inSource_of_source named
  constructor
  · intro m lists
    obtain ⟨found, isFirst, lookup⟩ := lookup_of_listed .method loaded sourceName first
      (fun _ => rfl) lists.listed (inSource_of_source lists.source)
    refine ⟨memberOwner_of_listsMethod owns nonempty lists, found, isFirst, ?_, ?_⟩
    · rw [methodCallers, findMethod_eq_lookup, lookup]
      rfl
    · rw [methodOverrides, findMethod_eq_lookup, lookup]
      rfl
  · intro f lists
    obtain ⟨found, isFirst, lookup⟩ := lookup_of_listed .field loaded sourceName first
      (fun _ => rfl) lists.listed (inSource_of_source lists.source)
    refine ⟨memberOwner_of_listsField owns nonempty lists, found, isFirst, ?_⟩
    rw [fieldCallers, findField_eq_lookup, lookup]
    rfl

theorem listsMethod_run : listener.normalize.ListsMethod listenerRun where
  listed := .head _
  source := rfl
  owner_plain := by decide
  name_plain := by decide
  undotted := by decide

theorem listsField_counts : listener.normalize.ListsField listenerCounts where
  listed := .head _
  source := rfl
  signature_plain := by
    rw [FieldSymbol.toList_signature]
    decide
  owner_plain found := by
    have colon := found.subset (by decide : ':' ∈ fieldMark)
    exact absurd colon (by decide)
  name_plain := by decide
  undotted := by decide

theorem listed_signatures_answer_listener :
    listener.normalize.ListsMethod listenerRun ∧ listener.normalize.ListsField listenerCounts ∧
      Command.memberOwner none "com.example.Outer.AnonymousClass3.run(int[]):void" =
        .ok "com.example.Outer.AnonymousClass3" ∧
      Command.memberOwner none
          "com.example.Outer.AnonymousClass3.counts :java.util.Map<java.lang.String, int[]>" =
        .ok "com.example.Outer.AnonymousClass3" ∧
      outerInstance.methodCallers "com.example.Outer.AnonymousClass3"
          "com.example.Outer.AnonymousClass3.run(int[]):void" =
        .ok ["com.example.Main.main():void"] ∧
      outerInstance.fieldCallers "com.example.Outer.AnonymousClass3"
          "com.example.Outer.AnonymousClass3.counts :java.util.Map<java.lang.String, int[]>" =
        .ok ["com.example.Outer.AnonymousClass3.run(int[]):void"] := by
  have answers := listed_signatures_answer (i := outerInstance) rfl
    (ProgramGraph.isNormalized_ofClasses [outer] none) (c := listener.normalize) rfl rfl
  obtain ⟨methodOwner, method, isMethod, methodCallers, _⟩ := answers.1 _ listsMethod_run
  obtain ⟨fieldOwner, field, isField, fieldCallers⟩ := answers.2 _ listsField_counts
  cases isMethod
  cases isField
  exact ⟨listsMethod_run, listsField_counts, methodOwner, fieldOwner, methodCallers,
    fieldCallers⟩

end ProgramInstance

end ClassAtlas
