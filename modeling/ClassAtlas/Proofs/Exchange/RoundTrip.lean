import ClassAtlas.Proofs.Exchange.ReadingBack
import ClassAtlas.Proofs.Snapshot.Merging

/-! Whatever is written as JSON text reads back as it was, and a program that is saved as a
snapshot loads again with the same classes and the same manifest. Both hold up to the nesting
that a reader of JSON admits. -/
namespace ClassAtlas

open Document Text

namespace Json

/-- The texts that a value may be written as. -/
inductive Writes (j : Json) : String → Prop where
  | compact : Writes j j.compact
  | indented : Writes j j.indented

theorem Writes.parse {j : Json} {text : String} (writes : Writes j text) :
    parse (cells (utf8 text)) = (j.toTree, true) := by
  cases writes with
  | compact => exact parse_compact j
  | indented => exact parse_indented j

/-- Every text of a written value is read as that value, if the nesting is admitted. -/
def RoundTrips {α : Type} (reader : Reader α) (write : α → Json) : Prop :=
  ∀ a text, Writes (write a) text → (write a).depth ≤ maxLevels →
    read reader (cells (utf8 text)) = .ok a

theorem roundTrips {α : Type} {reader : Reader α} {write : α → Json}
    (reads : ReadsBack reader write) : RoundTrips reader write := by
  intro a text writes room
  have value : (reader format maxLevels (write a).toTree).run' 0 = .ok a := by
    rw [reads maxLevels a room]
    rfl
  rw [read, writes.parse]
  simp only [value]
  rfl

end Json

namespace ProgramGraph

/-- What is saved of a program. -/
def snapshot (g : ProgramGraph) : Snapshot := ⟨g.manifest, g.classes⟩

/-- From any file of JSON that holds the saved program, it loads again as it was. -/
def Reloads (g : ProgramGraph) : Prop :=
  ∀ (w : World) (path text : String), Snapshot.Format.ofPath? path = some .json →
    g.snapshot.toJson.Writes text → g.snapshot.toJson.depth ≤ Json.maxLevels →
    w.readFile path = .ok (utf8 text) →
    ∃ again, Snapshot.load w [path] = .ok again ∧ again.classes = g.classes ∧
      again.manifest = g.manifest

theorem IsNormalized.reloads {g : ProgramGraph} (built : g.IsNormalized) : g.Reloads := by
  intro w path text known writes room file
  have parsed : Snapshot.parse .json (utf8 text) = .ok g.snapshot :=
    Json.roundTrips Snapshot.readsBack g.snapshot text writes room
  have input : Snapshot.readInput w path = .ok (utf8 text, g.snapshot) := by
    rw [Snapshot.readInput, known]
    simp only [file, parsed]
  have inputs : [path].mapM (Snapshot.readInput w) = .ok [(utf8 text, g.snapshot)] :=
    mapM_eq_ok_iff.2 (.cons input .nil)
  refine ⟨_, Snapshot.load_eq_ok_iff.2 ⟨_, inputs, rfl⟩, ?_, ?_⟩
  · -- Loading builds the program anew, and classes that were normalized once stay as they are.
    change ClassSymbol.normalizeAll (g.classes ++ []) = g.classes
    rw [List.append_nil, built.normalizeAll_classes]
  · change [g.snapshot].findSome? Snapshot.manifest = g.manifest
    simp [snapshot]

end ProgramGraph

/-- What is promised of all that is written. -/
structure ReadsBackUnchanged : Prop where
  classes : Json.RoundTrips ClassSymbol.reader ClassSymbol.toJson
  methods : Json.RoundTrips MethodSymbol.reader MethodSymbol.toJson
  fields : Json.RoundTrips FieldSymbol.reader FieldSymbol.toJson
  snapshots : Json.RoundTrips Snapshot.reader Snapshot.toJson
  graphs : Json.RoundTrips ProgramGraph.reader ProgramGraph.toJson
  interfaces : Json.RoundTrips AidlInterface.reader AidlInterface.toJson
  summaries : Json.RoundTrips InstanceInfo.reader InstanceInfo.toJson
  configs : Json.RoundTrips ServiceConfig.reader ServiceConfig.toJson
  signatures : Json.RoundTrips Signature.reader Signature.toJson
  dialects : Json.RoundTrips Dialect.reader Dialect.toJson
  reloads : ∀ w inputs g, Snapshot.load w inputs = .ok g → g.Reloads

theorem readsBackUnchanged : ReadsBackUnchanged where
  classes := Json.roundTrips ClassSymbol.readsBack
  methods := Json.roundTrips MethodSymbol.readsBack
  fields := Json.roundTrips FieldSymbol.readsBack
  snapshots := Json.roundTrips Snapshot.readsBack
  graphs := Json.roundTrips ProgramGraph.readsBack
  interfaces := Json.roundTrips AidlInterface.readsBack
  summaries := Json.roundTrips InstanceInfo.readsBack
  configs := Json.roundTrips ServiceConfig.readsBack
  signatures := Json.roundTrips Signature.readsBack
  dialects := Json.roundTrips Dialect.readsBack
  reloads _ _ _ loaded := (Snapshot.isNormalized_of_load loaded).reloads

end ClassAtlas
