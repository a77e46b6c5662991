import ClassAtlas.Digest.Sha256
import ClassAtlas.Exchange.Symbols
import ClassAtlas.Json.Reader
import ClassAtlas.Provider
import ClassAtlas.World.Path
import ClassAtlas.Yaml.Reader

/-! The provider of exported program models. An input is one snapshot, in JSON or
YAML by the extension of its path. Inputs are loaded in order and the first that
fails decides; their classes follow one another, the first manifest stays, and the
fingerprint is taken of all bytes. Sources are those that were exported. -/
namespace ClassAtlas.Snapshot

inductive Format where
  | json
  | yaml
  deriving DecidableEq

def Format.ofPath? (path : String) : Option Format :=
  match Path.extension? path with
  | some "json" => some json
  | some "yaml" | some "yml" => some yaml
  | _ => none

def parse (format : Format) (bytes : List UInt8) : Except Document.ReadFault Snapshot :=
  match format with
  | .json => Json.read reader (Text.cells bytes)
  | .yaml => Yaml.read reader bytes

def readInput (w : World) (path : String) : Except Failure (List UInt8 × Snapshot) :=
  match Format.ofPath? path with
  | none => .error (.invalidPath path .unsupportedExtension)
  | some format =>
    match w.readFile path with
    | .error why => .error (.invalidPath path (.unreadable why))
    | .ok bytes =>
      match parse format bytes with
      | .error fault => .error (.unparsable path fault)
      | .ok snapshot => .ok (bytes, snapshot)

def merge (snapshots : List Snapshot) : ProgramGraph :=
  .ofClasses (snapshots.flatMap Snapshot.classes) (snapshots.findSome? Snapshot.manifest)

def load (w : World) (inputs : List String) : Except Failure ProgramGraph := do
  let parts ← inputs.mapM (readInput w)
  return { merge (parts.map Prod.snd) with
    inputs := inputs
    fingerprint := some (Digest.sha256Hex (parts.flatMap Prod.fst))
    loadedAt := some w.time }

def classSource (c : ClassSymbol) : Except Mishap String :=
  match c.source with
  | some source => .ok source
  | none => .error (.failure (.unreadableClass c.fullName "no reconstructed source"))

def provider : Provider where
  name := "snapshot"
  accepts path := (Format.ofPath? path).isSome
  load := load
  classSource := classSource
  methodSource m := .ok m.source

end ClassAtlas.Snapshot

namespace ClassAtlas

def ProviderRegistry.default : ProviderRegistry :=
  ProviderRegistry.empty.register Snapshot.provider

end ClassAtlas
