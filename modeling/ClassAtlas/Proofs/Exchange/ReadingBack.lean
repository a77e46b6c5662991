import ClassAtlas.Exchange.Service
import ClassAtlas.Proofs.Document.ReadingBack

/-! Every written form is read back as the value it was written from. For records the rows
say what is written of each field; the layouts are theirs. -/
namespace ClassAtlas

open Document

theorem readsBack_texts : ReadsBack readTexts Json.strings := readsBack_list readsBack_string

theorem readsAt_optionalText (levels : Nat) (text : String) :
    ReadsAt readOptionalText levels (.string text) (some text) :=
  optional_of_ne_null nofun (readsBack_string levels text)

theorem readsBack_ofOption {α : Type} {reader : Reader α} {write : α → Json}
    (set : ∀ a, write a ≠ .null) (reads : ReadsBack reader write) :
    ReadsBack (Reader.optional reader) (Json.ofOption write)
  | _, none => fun _ => rfl
  | levels, some a => optional_of_ne_null (set a) (reads levels a)

theorem readsBack_word16 : ReadsBack readWord16 fun n => .number n.toNat := by
  intro levels n room
  have small : n.toNat < 65536 := n.toNat_lt
  have value : Reader.natural 65536 "u16" Json.format levels (Json.number n.toNat).toTree =
      pure n.toNat := readsAt_natural small (small.le.trans (by decide)) room
  rw [readWord16, value, pure_bind]
  simp

theorem readsBack_word64 : ReadsBack readWord64 fun n => .number n.toNat := by
  intro levels n room
  have small : n.toNat < 18446744073709551616 := n.toNat_lt
  have value : Reader.natural 18446744073709551616 "usize" Json.format levels
      (Json.number n.toNat).toTree = pure n.toNat :=
    readsAt_natural small (Nat.le_of_lt_succ small) room
  rw [readWord64, value, pure_bind]
  simp

section Rows
variable {α : Type} {name : String} {need : Need} {levels : Nat} {a : α}

theorem row_string {get : α → String} {set : String → α → α} :
    (Row.of name need Reader.string .string get set).ReadsBack levels a :=
  Row.readsBack_of (readsBack_string _ _)

theorem row_texts {get : α → List String} {set : List String → α → α} :
    (Row.of name need readTexts .strings get set).ReadsBack levels a :=
  Row.readsBack_of (readsBack_texts _ _)

theorem row_optionalText {get : α → Option String} {set : Option String → α → α} :
    (Row.optional name Reader.string .string get set).ReadsBack levels a :=
  Row.readsBack_optional fun _ _ => readsAt_optionalText _ _

/-- An optional text that is written as null where it is unset. -/
theorem row_textOrNull {get : α → Option String} {set : Option String → α → α} :
    (Row.of name need readOptionalText (.ofOption .string) get set).ReadsBack levels a :=
  Row.readsBack_of (readsBack_ofOption nofun readsBack_string _ _)

theorem row_word64 {get : α → UInt64} {set : UInt64 → α → α} :
    (Row.of name need readWord64 (fun n => .number n.toNat) get set).ReadsBack levels a :=
  Row.readsBack_of (readsBack_word64 _ _)

end Rows

namespace MethodSymbol

def rows : List (Row MethodSymbol) :=
  [.of "name" .required Reader.string .string name fun v m => { m with name := v },
   .of "params" .defaulted readTexts .strings params fun v m => { m with params := v },
   .of "return_type" .required Reader.string .string returnType
     fun v m => { m with returnType := v },
   .of "declaring_class" .defaulted Reader.string .string declaringClass
     fun v m => { m with declaringClass := v },
   .of "used_in" .defaulted readTexts .strings usedIn fun v m => { m with usedIn := v },
   .of "overrides" .defaulted readTexts .strings overrides fun v m => { m with overrides := v },
   .optional "source" Reader.string .string source fun v m => { m with source := v }]

theorem toJson_eq (m : MethodSymbol) : m.toJson = .object (Row.membersOf rows m) := by
  obtain ⟨_, _, _, _, _, _, source⟩ := m
  cases source <;> rfl

theorem restoreAll_rows (m : MethodSymbol) : Row.restoreAll rows m layout.blank = m := by
  obtain ⟨_, _, _, _, _, _, source⟩ := m
  cases source <;> rfl

theorem readsBack : ReadsBack reader toJson := by
  intro levels m
  rw [toJson_eq]
  refine readsAt_rows rfl (by decide) (fun below _ => ?_) (restoreAll_rows m)
  simp only [rows, List.forall_mem_cons]
  exact ⟨row_string, row_texts, row_string, row_string, row_texts, row_texts, row_optionalText,
    nofun⟩

end MethodSymbol

namespace FieldSymbol

def rows : List (Row FieldSymbol) :=
  [.of "name" .required Reader.string .string name fun v f => { f with name := v },
   .of "field_type" .required Reader.string .string fieldType fun v f => { f with fieldType := v },
   .of "declaring_class" .defaulted Reader.string .string declaringClass
     fun v f => { f with declaringClass := v },
   .of "used_in" .defaulted readTexts .strings usedIn fun v f => { f with usedIn := v }]

theorem toJson_eq (f : FieldSymbol) : f.toJson = .object (Row.membersOf rows f) := rfl

theorem readsBack : ReadsBack reader toJson := by
  intro levels f
  rw [toJson_eq]
  refine readsAt_rows rfl (by decide) (fun below _ => ?_) rfl
  simp only [rows, List.forall_mem_cons]
  exact ⟨row_string, row_string, row_string, row_texts, nofun⟩

end FieldSymbol

namespace ClassSymbol

theorem toJsonAll_eq_map (classes : List ClassSymbol) : toJsonAll classes = classes.map toJson := by
  induction classes with
  | nil => rfl
  | cons c rest ih => rw [toJsonAll, ih, List.map_cons]

def rows (inner : Reader ClassSymbol) : List (Row ClassSymbol) :=
  [.of "full_name" .required Reader.string .string fullName fun v c => { c with fullName := v },
   .of "name" .defaulted Reader.string .string name fun v c => { c with name := v },
   .optional "superclass" Reader.string .string superclass fun v c => { c with superclass := v },
   .of "interfaces" .defaulted readTexts .strings interfaces fun v c => { c with interfaces := v },
   .of "methods" .defaulted (Reader.list MethodSymbol.reader)
     (fun methods => .array (methods.map MethodSymbol.toJson)) methods
     fun v c => { c with methods := v },
   .of "fields" .defaulted (Reader.list FieldSymbol.reader)
     (fun fields => .array (fields.map FieldSymbol.toJson)) fields
     fun v c => { c with fields := v },
   .of "inner_classes" .defaulted (Reader.list inner) (fun classes => .array (toJsonAll classes))
     innerClasses fun v c => { c with innerClasses := v },
   .of "used_in" .defaulted readTexts .strings usedIn fun v c => { c with usedIn := v },
   .optional "source" Reader.string .string source fun v c => { c with source := v }]

section
variable (inner : Reader ClassSymbol) (c : ClassSymbol)

theorem toJson_eq : c.toJson = .object (Row.membersOf (rows inner) c) := by
  obtain ⟨_, _, superclass, _, _, _, _, _, source⟩ := c
  cases superclass <;> cases source <;> rfl

theorem restoreAll_rows : Row.restoreAll (rows inner) c (layout inner).blank = c := by
  obtain ⟨_, _, superclass, _, _, _, _, _, source⟩ := c
  cases superclass <;> cases source <;> rfl

/-- A class is read back by its layout where its nested classes are. -/
theorem readsAt_layout {levels : Nat}
    (reads : ∀ below < levels, ∀ d ∈ c.innerClasses, ReadsAt inner below d.toJson d) :
    ReadsAt (layout inner).reader levels c.toJson c := by
  rw [toJson_eq inner]
  have distinct : ((layout inner).fields.map Field.name).Nodup := by
    change ["full_name", "name", "superclass", "interfaces", "methods", "fields",
      "inner_classes", "used_in", "source"].Nodup
    decide
  refine readsAt_rows rfl distinct (fun below small => ?_) (restoreAll_rows inner c)
  simp only [rows, List.forall_mem_cons]
  have classes : ReadsAt (Reader.list inner) below (.array (toJsonAll c.innerClasses))
      c.innerClasses := by
    rw [toJsonAll_eq_map]
    exact readsAt_list fun lower lowest d inside => reads lower (by omega) d inside
  exact ⟨row_string, row_string, row_optionalText, row_texts,
    Row.readsBack_of (readsBack_list MethodSymbol.readsBack _ _),
    Row.readsBack_of (readsBack_list FieldSymbol.readsBack _ _), Row.readsBack_of classes,
    row_texts, row_optionalText, nofun⟩

end

mutual

/-- The levels that are left bound how many classes can still lie in one another, so a reader
of a greater rank never runs out of it. -/
theorem readsAt_readerBelow :
    ∀ (c : ClassSymbol) {rank levels : Nat}, levels < rank →
      ReadsAt (readerBelow rank) levels c.toJson c
  | ⟨_, _, _, _, _, _, inner, _, _⟩, rank + 1, _, small =>
    readsAt_layout (readerBelow rank) _ fun _ lower d inside =>
      readsAt_readerBelow_all inner d inside (lower.trans_le (Nat.le_of_lt_succ small))

theorem readsAt_readerBelow_all :
    ∀ (classes : List ClassSymbol), ∀ c ∈ classes, ∀ {rank levels : Nat}, levels < rank →
      ReadsAt (readerBelow rank) levels c.toJson c
  | c :: rest, d, inside, _, _, small => by
    rcases List.mem_cons.mp inside with same | later
    · exact same ▸ readsAt_readerBelow c small
    · exact readsAt_readerBelow_all rest d later small

end

theorem readsBack : ReadsBack reader toJson := by
  intro levels c room
  rw [reader]
  exact readsAt_readerBelow c (Nat.lt_succ_self levels) room

theorem readsBack_all : ReadsBack (Reader.list reader) fun classes => .array (toJsonAll classes) := by
  intro levels classes
  change ReadsAt _ levels (.array (toJsonAll classes)) classes
  rw [toJsonAll_eq_map]
  exact readsBack_list readsBack levels classes

end ClassSymbol

theorem row_classes {α : Type} {name : String} {need : Need} {levels : Nat} {a : α}
    {get : α → List ClassSymbol} {set : List ClassSymbol → α → α} :
    (Row.of name need (Reader.list ClassSymbol.reader)
      (fun classes => .array (ClassSymbol.toJsonAll classes)) get set).ReadsBack levels a :=
  Row.readsBack_of (ClassSymbol.readsBack_all _ _)

namespace ProgramGraph

def rows : List (Row ProgramGraph) :=
  [.of "classes" .required (Reader.list ClassSymbol.reader)
     (fun classes => .array (ClassSymbol.toJsonAll classes)) classes
     fun v g => { g with classes := v },
   .optional "manifest" Reader.string .string manifest fun v g => { g with manifest := v },
   .of "inputs" .defaulted (Reader.list (Reader.text "path string")) .strings inputs
     fun v g => { g with inputs := v },
   .optional "fingerprint" Reader.string .string fingerprint
     fun v g => { g with fingerprint := v },
   .optional "loaded_at" Reader.string .string loadedAt fun v g => { g with loadedAt := v }]

theorem toJson_eq (g : ProgramGraph) : g.toJson = .object (Row.membersOf rows g) := by
  obtain ⟨_, manifest, _, fingerprint, loadedAt⟩ := g
  cases manifest <;> cases fingerprint <;> cases loadedAt <;> rfl

theorem restoreAll_rows (g : ProgramGraph) : Row.restoreAll rows g layout.blank = g := by
  obtain ⟨_, manifest, _, fingerprint, loadedAt⟩ := g
  cases manifest <;> cases fingerprint <;> cases loadedAt <;> rfl

theorem readsBack : ReadsBack reader toJson := by
  intro levels g
  rw [toJson_eq]
  refine readsAt_rows rfl (by decide) (fun below _ => ?_) (restoreAll_rows g)
  simp only [rows, List.forall_mem_cons]
  exact ⟨row_classes, row_optionalText,
    Row.readsBack_of (readsBack_list (readsBack_text "path string") _ _), row_optionalText,
    row_optionalText, nofun⟩

end ProgramGraph

namespace Snapshot

def rows : List (Row Snapshot) :=
  [.optional "manifest" Reader.string .string manifest fun v s => { s with manifest := v },
   .of "classes" .defaulted (Reader.list ClassSymbol.reader)
     (fun classes => .array (ClassSymbol.toJsonAll classes)) classes
     fun v s => { s with classes := v }]

theorem toJson_eq (s : Snapshot) : s.toJson = .object (Row.membersOf rows s) := by
  obtain ⟨manifest, _⟩ := s
  cases manifest <;> rfl

theorem restoreAll_rows (s : Snapshot) : Row.restoreAll rows s layout.blank = s := by
  obtain ⟨manifest, _⟩ := s
  cases manifest <;> rfl

theorem readsBack : ReadsBack reader toJson := by
  intro levels s
  rw [toJson_eq]
  refine readsAt_rows rfl (by decide) (fun below _ => ?_) (restoreAll_rows s)
  simp only [rows, List.forall_mem_cons]
  exact ⟨row_optionalText, row_classes, nofun⟩

end Snapshot

namespace AidlInterface

def rows : List (Row AidlInterface) :=
  [.of "interface_name" .required Reader.string .string interfaceName
     fun v i => { i with interfaceName := v },
   .of "methods" .required readTexts .strings methods fun v i => { i with methods := v },
   .of "implementation" .named readOptionalText (.ofOption .string) implementation
     fun v i => { i with implementation := v }]

theorem toJson_eq (i : AidlInterface) : i.toJson = .object (Row.membersOf rows i) := rfl

theorem readsBack : ReadsBack reader toJson := by
  intro levels i
  rw [toJson_eq]
  refine readsAt_rows rfl (by decide) (fun below _ => ?_) rfl
  simp only [rows, List.forall_mem_cons]
  exact ⟨row_string, row_texts, row_textOrNull, nofun⟩

end AidlInterface

namespace ServiceConfig

def rows : List (Row ServiceConfig) :=
  [.of "host" .required Reader.string .string host fun v c => { c with host := v },
   .of "port" .required readWord16 (fun n => .number n.toNat) port
     fun v c => { c with port := v },
   .of "max_instances" .required readWord64 (fun n => .number n.toNat) maxInstances
     fun v c => { c with maxInstances := v },
   .of "provider" .required Reader.string .string provider fun v c => { c with provider := v }]

theorem toJson_eq (c : ServiceConfig) : c.toJson = .object (Row.membersOf rows c) := rfl

theorem readsBack : ReadsBack reader toJson := by
  intro levels c
  rw [toJson_eq]
  refine readsAt_rows rfl (by decide) (fun below _ => ?_) rfl
  simp only [rows, List.forall_mem_cons]
  exact ⟨row_string, Row.readsBack_of (readsBack_word16 _ _), row_word64, row_string, nofun⟩

end ServiceConfig

namespace InstanceInfo

def rows : List (Row InstanceInfo) :=
  [.of "id" .required Reader.string .string id fun v i => { i with id := v },
   .of "path" .required Reader.string .string path fun v i => { i with path := v },
   .of "provider" .required Reader.string .string provider fun v i => { i with provider := v },
   .of "loaded" .required Reader.boolean .bool loaded fun v i => { i with loaded := v },
   .of "class_count" .named (Reader.optional readWord64)
     (.ofOption fun n => .number n.toNat) classCount fun v i => { i with classCount := v },
   .of "fingerprint" .named readOptionalText (.ofOption .string) fingerprint
     fun v i => { i with fingerprint := v },
   .of "loaded_at" .named readOptionalText (.ofOption .string) loadedAt
     fun v i => { i with loadedAt := v },
   .of "cached_interfaces" .required readWord64 (fun n => .number n.toNat) cachedInterfaces
     fun v i => { i with cachedInterfaces := v }]

theorem toJson_eq (i : InstanceInfo) : i.toJson = .object (Row.membersOf rows i) := rfl

theorem restoreAll_rows (i : InstanceInfo) : Row.restoreAll rows i layout.blank = i := by
  obtain ⟨_, _, _, _, _, _, _, _⟩ := i
  rfl

theorem readsBack : ReadsBack reader toJson := by
  intro levels i
  rw [toJson_eq]
  refine readsAt_rows rfl (by decide) (fun below _ => ?_) (restoreAll_rows i)
  simp only [rows, List.forall_mem_cons]
  exact ⟨row_string, row_string, row_string, Row.readsBack_of (readsBack_boolean _ _),
    Row.readsBack_of (readsBack_ofOption nofun readsBack_word64 _ _), row_textOrNull,
    row_textOrNull, row_word64, nofun⟩

end InstanceInfo

/-! Names of dialects and kinds. -/

theorem Dialect.readsBack : ReadsBack Dialect.reader Dialect.toJson := by
  intro levels d _
  cases d <;> rfl

theorem Signature.readsBack : ReadsBack Signature.reader Signature.toJson := by
  intro levels s room
  obtain ⟨dialect, kind, text⟩ := s
  cases levels with
  | zero => exact absurd room (Nat.not_succ_le_zero _)
  | succ levels => cases dialect <;> cases kind <;> rfl

end ClassAtlas
