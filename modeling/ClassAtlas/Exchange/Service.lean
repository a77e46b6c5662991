import ClassAtlas.Document.Record
import ClassAtlas.Json.Value
import ClassAtlas.Config
import ClassAtlas.Reference
import ClassAtlas.Exchange.Symbols
import ClassAtlas.Instance

/-! The written forms of the configuration, of instance summaries and of
identifiers. A dialect or kind is written as a name; a name may also be read from
a record that has it as its only key, with null as its value. -/
namespace ClassAtlas

open Document

def readWord16 : Reader UInt16 := fun format levels t => do
  return (← Reader.natural 65536 "u16" format levels t).toUInt16

def readWord64 : Reader UInt64 := fun format levels t => do
  return (← Reader.natural 18446744073709551616 "usize" format levels t).toUInt64

namespace ServiceConfig

def toJson (c : ServiceConfig) : Json :=
  .object
    [("host", .string c.host), ("port", .number c.port.toNat),
     ("max_instances", .number c.maxInstances.toNat), ("provider", .string c.provider)]

def layout : Layout ServiceConfig where
  title := "struct ServiceConfig"
  fields :=
    [.of "host" .required Reader.string fun v c => { c with host := v },
     .of "port" .required readWord16 fun v c => { c with port := v },
     .of "max_instances" .required readWord64 fun v c => { c with maxInstances := v },
     .of "provider" .required Reader.string fun v c => { c with provider := v }]
  blank := ⟨"", 0, 0, ""⟩

def reader : Reader ServiceConfig := layout.reader

end ServiceConfig

namespace InstanceInfo

def toJson (i : InstanceInfo) : Json :=
  .object
    [("id", .string i.id), ("path", .string i.path), ("provider", .string i.provider),
     ("loaded", .bool i.loaded), ("class_count", .ofOption (fun n => .number n.toNat) i.classCount),
     ("fingerprint", .ofOption .string i.fingerprint), ("loaded_at", .ofOption .string i.loadedAt),
     ("cached_interfaces", .number i.cachedInterfaces.toNat)]

def layout : Layout InstanceInfo where
  title := "struct InstanceInfo"
  fields :=
    [.of "id" .required Reader.string fun v i => { i with id := v },
     .of "path" .required Reader.string fun v i => { i with path := v },
     .of "provider" .required Reader.string fun v i => { i with provider := v },
     .of "loaded" .required Reader.boolean fun v i => { i with loaded := v },
     .of "class_count" .named (Reader.optional readWord64) fun v i => { i with classCount := v },
     .of "fingerprint" .named readOptionalText fun v i => { i with fingerprint := v },
     .of "loaded_at" .named readOptionalText fun v i => { i with loadedAt := v },
     .of "cached_interfaces" .required readWord64 fun v i => { i with cachedInterfaces := v }]
  blank := ⟨"", "", "", false, none, none, none, 0⟩

def reader : Reader InstanceInfo := layout.reader

end InstanceInfo

def findNamed {α : Type} (table : List (String × α)) (name : String) : Read α :=
  match table.lookup name with
  | some a => return a
  | none => throw (.unknownVariant name (table.map Prod.fst))

def readBareName {α : Type} (table : List (String × α)) : Reader α := fun format levels t => do
  findNamed table (← Reader.text "variant identifier" format levels t)

/-- Read a name from a table. Nothing but a text or a record is even looked at. -/
def readNamed {α : Type} (table : List (String × α)) : Reader α := fun format levels t =>
  match t, levels with
  | .scalar s, _ =>
    match s.text with
    | some name => findNamed table name
    | none => throw .malformed
  | .record ((key, value) :: rest), levels + 1 => do
    let a ← readBareName table format levels key
    match value with
    | .scalar s =>
      if s.found.toOption = some .null then
        if rest.isEmpty then return a else throw .malformed
      else value.refuse "unit"
    | _ => value.refuse "unit"
  | _, _ => throw .malformed

namespace Dialect

def name : Dialect → String
  | binary => "binary"
  | source => "source"

def table : List (String × Dialect) :=
  [("binary", binary), ("source", source)]

def toJson (d : Dialect) : Json := .string d.name

def reader : Reader Dialect := readNamed table

end Dialect

namespace Signature

def kindName (s : Signature) : String :=
  match s.dialect, s.kind with
  | .binary, .type => "binary_class_descriptor"
  | .binary, .method => "binary_method_reference"
  | .binary, .field => "binary_field_reference"
  | .source, .type => "source_class_name"
  | .source, .method => "source_method_signature"
  | .source, .field => "source_field_signature"

def kindTable : List (String × (Dialect × SymbolKind)) :=
  [("binary_class_descriptor", .binary, .type), ("binary_method_reference", .binary, .method),
   ("binary_field_reference", .binary, .field), ("source_class_name", .source, .type),
   ("source_method_signature", .source, .method), ("source_field_signature", .source, .field)]

def toJson (s : Signature) : Json :=
  .object [("kind", .string s.kindName), ("text", .string s.text)]

/-- What is known of an identifier while its members are read. A text that comes
before its kind is kept until the kind is known. -/
inductive Draft where
  | empty
  | kind (k : Dialect × SymbolKind)
  | text (t : Tree)
  | whole (s : Signature)

/-- A value that could be kept: every part of it can be read. -/
def isKeepable : Nat → Tree → Bool
  | _, .scalar s => s.found.isOk
  | levels + 1, .list items => items.all (isKeepable levels)
  | levels + 1, .record members =>
    members.all fun member => isKeepable levels member.1 && isKeepable levels member.2
  | _, _ => false

def readMembers (format : Format) (levels : Nat) (draft : Draft) :
    List (Tree × Tree) → Read Signature
  | [] =>
    match draft with
    | .empty | .text _ => throw (.missingField "kind")
    | .kind _ => throw (.missingField "text")
    | .whole s => return s
  | (key, value) :: rest => do
    let name ← Reader.fieldName format levels key
    if name = "kind" then
      match draft with
      | .empty => readMembers format levels (.kind (← readNamed kindTable format levels value)) rest
      | .text kept =>
        let (dialect, kind) ← readNamed kindTable format levels value
        let text ← Reader.string format levels kept
        readMembers format levels (.whole ⟨dialect, kind, text⟩) rest
      | .kind _ | .whole _ => throw (.duplicateField "kind")
    else if name = "text" then
      match draft with
      | .empty =>
        if isKeepable levels value then readMembers format levels (.text value) rest
        else throw .malformed
      | .kind (dialect, kind) =>
        let text ← Reader.string format levels value
        readMembers format levels (.whole ⟨dialect, kind, text⟩) rest
      | .text _ | .whole _ => throw (.duplicateField "text")
    else if value.isSound then readMembers format levels draft rest
    else throw .malformed

def wanted : String := "adjacently tagged enum Signature"

def reader : Reader Signature := fun format levels t =>
  match t, levels with
  | .record members, levels + 1 => readMembers format levels .empty members
  | .list [], _ + 1 => throw (.invalidLength 0 wanted)
  | .list (kind :: rest), levels + 1 => do
    let (dialect, kind) ← readBareName kindTable format levels kind
    match rest with
    | [] => throw (.invalidLength 1 wanted)
    | text :: extra =>
      let text ← Reader.string format levels text
      if extra.isEmpty then return ⟨dialect, kind, text⟩ else throw .malformed
  | .list _, 0 | .record _, 0 => throw .malformed
  | t, _ => t.refuse wanted

end Signature

end ClassAtlas
