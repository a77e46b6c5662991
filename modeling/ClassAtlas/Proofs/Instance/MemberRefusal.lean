import ClassAtlas.Proofs.Instance.ClassLookup
import ClassAtlas.Proofs.Reference.Grammar

/-! Why a member of a loaded program cannot be looked up. The class argument is read
before the class is looked for, and both before the member argument is even read, so of
several reasons the first in this order is given. -/
namespace ClassAtlas

theorem isMalformed_of_inSource {convert : String → Except Failure String}
    (malformed : ∀ {identifier why}, convert identifier = .error why → why.isMalformed)
    {identifier : String} {why : Failure} (refused : inSource convert identifier = .error why) :
    why.isMalformed := by
  unfold inSource at refused
  rcases bind_eq_error_iff.1 refused with unclassified | ⟨dialect, _, more⟩
  · exact isMalformed_of_classify unclassified
  · cases dialect with
    | binary => exact malformed more
    | source => cases more

theorem isMalformed_of_normalizeClassName {identifier : String} {why : Failure}
    (refused : normalizeClassName identifier = .error why) : why.isMalformed :=
  isMalformed_of_inSource isMalformed_of_typeNameToSource refused

/-- How the members of one kind are looked up in their class. -/
structure MemberKind (α : Type) where
  signature : String → Except Failure String
  find? : ClassSymbol → String → Option α
  absent : String → Absent
  isMalformed : ∀ {member why}, signature member = .error why → why.isMalformed

namespace MemberKind

def method : MemberKind MethodSymbol where
  signature := normalizeMethod
  find? := ClassSymbol.findMethod?
  absent := .method
  isMalformed := isMalformed_of_inSource isMalformed_of_methodReferenceToSource

def field : MemberKind FieldSymbol where
  signature := normalizeField
  find? := ClassSymbol.findField?
  absent := .field
  isMalformed := isMalformed_of_inSource isMalformed_of_fieldReferenceToSource

variable {α : Type}

/-- Why a member is not found, each reason with those before it ruled out. -/
inductive Refuses (kind : MemberKind α) (g : ProgramGraph) (className member : String) :
    Failure → Prop where
  | classMalformed {why : Failure} (refused : normalizeClassName className = .error why)
      (malformed : why.isMalformed) : Refuses kind g className member why
  | classAbsent {name : String} (named : normalizeClassName className = .ok name)
      (missing : g.findClass? name = none) :
      Refuses kind g className member (.notFound (.type name))
  | memberMalformed {name : String} {c : ClassSymbol} {why : Failure}
      (named : normalizeClassName className = .ok name) (found : g.findClass? name = some c)
      (refused : kind.signature member = .error why) (malformed : why.isMalformed) :
      Refuses kind g className member why
  | memberAbsent {name signature : String} {c : ClassSymbol}
      (named : normalizeClassName className = .ok name) (found : g.findClass? name = some c)
      (written : kind.signature member = .ok signature)
      (missing : kind.find? c signature = none) :
      Refuses kind g className member (.notFound (kind.absent signature))

def Finds (kind : MemberKind α) (g : ProgramGraph) (className member : String) (a : α) : Prop :=
  ∃ name c signature, normalizeClassName className = .ok name ∧ g.findClass? name = some c ∧
    kind.signature member = .ok signature ∧ kind.find? c signature = some a

def lookup (kind : MemberKind α) (i : ProgramInstance) (className member : String) :
    Except Failure α :=
  i.findMember kind.signature kind.find? kind.absent className member

end MemberKind

namespace ProgramInstance

theorem findMethod_eq_lookup (i : ProgramInstance) (className method : String) :
    i.findMethod className method = MemberKind.method.lookup i className method := rfl

theorem findField_eq_lookup (i : ProgramInstance) (className field : String) :
    i.findField className field = MemberKind.field.lookup i className field := rfl

section Loaded
variable {i : ProgramInstance} {p : LoadedProgram} (loaded : i.program = some p)
  {className member : String} {why : Failure}
include loaded

theorem findClass_eq_error_iff :
    i.findClass className = .error why ↔ normalizeClassName className = .error why ∨
      ∃ name, normalizeClassName className = .ok name ∧ p.graph.findClass? name = none ∧
        why = .notFound (.type name) := by
  unfold findClass ProgramInstance.loaded
  rw [loaded]
  cases normal : normalizeClassName className with
  | error cause => simp [Bind.bind, Except.bind]
  | ok name =>
    cases found : p.graph.findClass? name <;>
      simp [Bind.bind, Except.bind, found, pure, Except.pure, throw, throwThe,
        MonadExceptOf.throw, eq_comm]

variable {α : Type} {kind : MemberKind α}

theorem lookup_eq_error_iff :
    kind.lookup i className member = .error why ↔ kind.Refuses p.graph className member why := by
  constructor
  · intro failed
    rcases bind_eq_error_iff.1 failed with inClass | ⟨c, foundClass, more⟩
    · rcases (findClass_eq_error_iff loaded).1 inClass with malformed | ⟨name, named, missing, rfl⟩
      · exact .classMalformed malformed (isMalformed_of_normalizeClassName malformed)
      · exact .classAbsent named missing
    · obtain ⟨name, named, found⟩ := (findClass_eq_ok_iff loaded).1 foundClass
      rcases bind_eq_error_iff.1 more with malformed | ⟨signature, written, last⟩
      · exact .memberMalformed named found malformed (kind.isMalformed malformed)
      · split at last
        · cases last
        · next missing =>
          cases last
          exact .memberAbsent named found written missing
  · intro refused
    cases refused with
    | classMalformed malformed =>
      exact bind_eq_error_iff.2 (.inl ((findClass_eq_error_iff loaded).2 (.inl malformed)))
    | classAbsent named missing =>
      have absent := (findClass_eq_error_iff loaded).2 (.inr ⟨_, named, missing, rfl⟩)
      exact bind_eq_error_iff.2 (.inl absent)
    | memberMalformed named found malformed =>
      have foundClass := (findClass_eq_ok_iff loaded).2 ⟨_, named, found⟩
      exact bind_eq_error_iff.2 (.inr ⟨_, foundClass, bind_eq_error_iff.2 (.inl malformed)⟩)
    | memberAbsent named found written missing =>
      have foundClass := (findClass_eq_ok_iff loaded).2 ⟨_, named, found⟩
      refine bind_eq_error_iff.2 (.inr ⟨_, foundClass, bind_eq_error_iff.2 (.inr ?_)⟩)
      refine ⟨_, written, ?_⟩
      rw [missing]
      rfl

theorem lookup_eq_ok_iff {a : α} :
    kind.lookup i className member = .ok a ↔ kind.Finds p.graph className member a := by
  constructor
  · intro answered
    obtain ⟨c, foundClass, more⟩ := bind_eq_ok_iff.1 answered
    obtain ⟨name, named, found⟩ := (findClass_eq_ok_iff loaded).1 foundClass
    obtain ⟨signature, written, last⟩ := bind_eq_ok_iff.1 more
    split at last
    · next listed =>
      cases last
      exact ⟨name, c, signature, named, found, written, listed⟩
    · cases last
  · rintro ⟨name, c, signature, named, found, written, listed⟩
    refine bind_eq_ok_iff.2 ⟨c, (findClass_eq_ok_iff loaded).2 ⟨name, named, found⟩, ?_⟩
    refine bind_eq_ok_iff.2 ⟨signature, written, ?_⟩
    rw [listed]
    rfl

end Loaded

end ProgramInstance

end ClassAtlas
