import ClassAtlas.Document.Record
import ClassAtlas.Json.Value
import ClassAtlas.Graph
import ClassAtlas.Aidl.Interface

/-! The written forms of symbols and programs: for every type the JSON value it is
written as, and the layout by which it is read again. An optional part that is
unset is not written; a list is always written. -/
namespace ClassAtlas

open Document

/-- A member for an optional text, left out where it is unset. -/
def optionalMember (key : String) : Option String → List (String × Json)
  | some text => [(key, .string text)]
  | none => []

/-- Names, types, members and references are lists of texts. -/
def readTexts : Reader (List String) := Reader.list Reader.string

def readOptionalText : Reader (Option String) := Reader.optional Reader.string

namespace MethodSymbol

def toJson (m : MethodSymbol) : Json :=
  .object
    ([("name", .string m.name), ("params", .strings m.params),
      ("return_type", .string m.returnType), ("declaring_class", .string m.declaringClass),
      ("used_in", .strings m.usedIn), ("overrides", .strings m.overrides)] ++
      optionalMember "source" m.source)

def layout : Layout MethodSymbol where
  title := "struct MethodSymbol"
  fields :=
    [.of "name" .required Reader.string fun v m => { m with name := v },
     .of "params" .defaulted readTexts fun v m => { m with params := v },
     .of "return_type" .required Reader.string fun v m => { m with returnType := v },
     .of "declaring_class" .defaulted Reader.string fun v m => { m with declaringClass := v },
     .of "used_in" .defaulted readTexts fun v m => { m with usedIn := v },
     .of "overrides" .defaulted readTexts fun v m => { m with overrides := v },
     .of "source" .defaulted readOptionalText fun v m => { m with source := v }]
  blank := ⟨"", [], "", "", [], [], none⟩

def reader : Reader MethodSymbol := layout.reader

end MethodSymbol

namespace FieldSymbol

def toJson (f : FieldSymbol) : Json :=
  .object
    [("name", .string f.name), ("field_type", .string f.fieldType),
     ("declaring_class", .string f.declaringClass), ("used_in", .strings f.usedIn)]

def layout : Layout FieldSymbol where
  title := "struct FieldSymbol"
  fields :=
    [.of "name" .required Reader.string fun v f => { f with name := v },
     .of "field_type" .required Reader.string fun v f => { f with fieldType := v },
     .of "declaring_class" .defaulted Reader.string fun v f => { f with declaringClass := v },
     .of "used_in" .defaulted readTexts fun v f => { f with usedIn := v }]
  blank := ⟨"", "", "", []⟩

def reader : Reader FieldSymbol := layout.reader

end FieldSymbol

namespace ClassSymbol

mutual

def toJson : ClassSymbol → Json
  | ⟨fullName, name, superclass, interfaces, methods, fields, inner, usedIn, source⟩ =>
    .object
      ([("full_name", .string fullName), ("name", .string name)] ++
        optionalMember "superclass" superclass ++
        [("interfaces", .strings interfaces), ("methods", .array (methods.map MethodSymbol.toJson)),
         ("fields", .array (fields.map FieldSymbol.toJson)),
         ("inner_classes", .array (toJsonAll inner)), ("used_in", .strings usedIn)] ++
        optionalMember "source" source)

def toJsonAll : List ClassSymbol → List Json
  | [] => []
  | c :: rest => toJson c :: toJsonAll rest

end

/-- The layout of a class whose nested classes are read by `inner`. -/
def layout (inner : Reader ClassSymbol) : Layout ClassSymbol where
  title := "struct ClassSymbol"
  fields :=
    [.of "full_name" .required Reader.string fun v c => { c with fullName := v },
     .of "name" .defaulted Reader.string fun v c => { c with name := v },
     .of "superclass" .defaulted readOptionalText fun v c => { c with superclass := v },
     .of "interfaces" .defaulted readTexts fun v c => { c with interfaces := v },
     .of "methods" .defaulted (Reader.list MethodSymbol.reader) fun v c => { c with methods := v },
     .of "fields" .defaulted (Reader.list FieldSymbol.reader) fun v c => { c with fields := v },
     .of "inner_classes" .defaulted (Reader.list inner) fun v c => { c with innerClasses := v },
     .of "used_in" .defaulted readTexts fun v c => { c with usedIn := v },
     .of "source" .defaulted readOptionalText fun v c => { c with source := v }]
  blank := ⟨"", "", none, [], [], [], [], [], none⟩

/-- Read a class that lies in fewer than `rank` classes of the same text. -/
def readerBelow : Nat → Reader ClassSymbol
  | 0 => fun _ _ _ => throw .malformed
  | rank + 1 => (layout (readerBelow rank)).reader

/-- Read a class. Every class uses up a level of nesting, so the levels that are
left bound how many classes lie in one another. -/
def reader : Reader ClassSymbol := fun format levels t =>
  readerBelow (levels + 1) format levels t

end ClassSymbol

namespace ProgramGraph

def toJson (g : ProgramGraph) : Json :=
  .object
    ([("classes", .array (ClassSymbol.toJsonAll g.classes))] ++
      optionalMember "manifest" g.manifest ++ [("inputs", .strings g.inputs)] ++
      optionalMember "fingerprint" g.fingerprint ++ optionalMember "loaded_at" g.loadedAt)

def layout : Layout ProgramGraph where
  title := "struct ProgramGraph"
  fields :=
    [.of "classes" .required (Reader.list ClassSymbol.reader) fun v g => { g with classes := v },
     .of "manifest" .defaulted readOptionalText fun v g => { g with manifest := v },
     .of "inputs" .defaulted (Reader.list (Reader.text "path string")) fun v g =>
       { g with inputs := v },
     .of "fingerprint" .defaulted readOptionalText fun v g => { g with fingerprint := v },
     .of "loaded_at" .defaulted readOptionalText fun v g => { g with loadedAt := v }]
  blank := ⟨[], none, [], none, none⟩

def reader : Reader ProgramGraph := layout.reader

end ProgramGraph

structure Snapshot where
  manifest : Option String
  classes : List ClassSymbol

namespace Snapshot

def toJson (s : Snapshot) : Json :=
  .object
    (optionalMember "manifest" s.manifest ++
      [("classes", .array (ClassSymbol.toJsonAll s.classes))])

def layout : Layout Snapshot where
  title := "struct ProgramSnapshot"
  fields :=
    [.of "manifest" .defaulted readOptionalText fun v s => { s with manifest := v },
     .of "classes" .defaulted (Reader.list ClassSymbol.reader) fun v s => { s with classes := v }]
  blank := ⟨none, []⟩

def reader : Reader Snapshot := layout.reader

end Snapshot

namespace AidlInterface

def toJson (i : AidlInterface) : Json :=
  .object
    [("interface_name", .string i.interfaceName), ("methods", .strings i.methods),
     ("implementation", .ofOption .string i.implementation)]

def layout : Layout AidlInterface where
  title := "struct AidlInterface"
  fields :=
    [.of "interface_name" .required Reader.string fun v i => { i with interfaceName := v },
     .of "methods" .required readTexts fun v i => { i with methods := v },
     .of "implementation" .named readOptionalText fun v i => { i with implementation := v }]
  blank := ⟨"", [], none⟩

def reader : Reader AidlInterface := layout.reader

end AidlInterface

end ClassAtlas
