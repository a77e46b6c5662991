import ClassAtlas.Document.Record
import ClassAtlas.Yaml.Scalar

/-! Reading YAML. Anchors get numbers in the order of the text, and an alias becomes
a reference to the number that its name has there. A name that is given anew takes
the next number again, so that two nodes may share a number; it stands for the
later of them. -/
namespace ClassAtlas.Yaml

open Document

/-- The numbers of the anchors so far, or nothing behind the place where the
document breaks off. -/
abbrev Anchors := Option (List (List Char × Nat))

/-- The number of a new anchor: how many names there are. -/
def nextNumber (names : List (List Char × Nat)) : Nat :=
  (names.map Prod.fst).eraseDups.length

def register (anchor : Option (List Char)) (names : List (List Char × Nat)) :
    Option Nat × List (List Char × Nat) :=
  match anchor with
  | some name => (some (nextNumber names), (name, nextNumber names) :: names)
  | none => (none, names)

/-- What numbers stand for, in the order of the text. -/
abbrev Targets := List (Nat × Tree)

def target (number : Option Nat) (t : Tree) (inside : Targets) : Targets :=
  match number with
  | some n => (n, t) :: inside
  | none => inside

namespace Node

mutual

def link (anchors : Anchors) : Node → Tree × Anchors × Targets
  | .fault => (.fault, none, [])
  | .alias name =>
    match anchors.bind fun names => names.lookup name with
    | some n => (.reference n, anchors, [])
    | none => (.fault, none, [])
  | .scalar anchor tag text style =>
    match anchors with
    | some names =>
      let (number, names) := register anchor names
      let t : Tree := .scalar (Yaml.scalar tag text style)
      (t, some names, target number t [])
    | none => (.fault, none, [])
  | .list anchor items =>
    match anchors with
    | some names =>
      let (number, names) := register anchor names
      let (items, anchors, inside) := linkItems (some names) items
      (.list items, anchors, target number (.list items) inside)
    | none => (.fault, none, [])
  | .record anchor members =>
    match anchors with
    | some names =>
      let (number, names) := register anchor names
      let (members, anchors, inside) := linkMembers (some names) members
      (.record members, anchors, target number (.record members) inside)
    | none => (.fault, none, [])

def linkItems (anchors : Anchors) : List Node → List Tree × Anchors × Targets
  | [] => ([], anchors, [])
  | item :: rest =>
    let (item, anchors, inside) := item.link anchors
    let (rest, anchors, later) := linkItems anchors rest
    (item :: rest, anchors, inside ++ later)

def linkMembers (anchors : Anchors) :
    List (Node × Node) → List (Tree × Tree) × Anchors × Targets
  | [] => ([], anchors, [])
  | (key, value) :: rest =>
    let (key, anchors, inKey) := key.link anchors
    let (value, anchors, inValue) := value.link anchors
    let (rest, anchors, later) := linkMembers anchors rest
    ((key, value) :: rest, anchors, inKey ++ inValue ++ later)

end

end Node

/-- Records have names for their fields, a key may be any node, and a reference stands
for the last node with its number. -/
def format (targets : Targets) : Format :=
  ⟨false, fun n => (targets.reverse.lookup n).getD .fault⟩

def maxLevels : Nat := 128

/-- How many marks a run of text takes, and whether it ends before the text breaks
off. -/
structure Extent where
  marks : Nat
  whole : Bool

/-- A run of text and the one behind it, which is not there if the first breaks
off. -/
def Extent.before (first second : Extent) : Extent :=
  if first.whole then ⟨first.marks + second.marks, second.whole⟩ else first

mutual

/-- The extent of a tree: one mark for a scalar or a reference, and one at either end
of a list or a record. -/
def extent : Tree → Extent
  | .fault => ⟨0, false⟩
  | .scalar _ | .reference _ => ⟨1, true⟩
  | .list items => Extent.before ⟨1, true⟩ ((itemsExtent items).before ⟨1, true⟩)
  | .record members => Extent.before ⟨1, true⟩ ((membersExtent members).before ⟨1, true⟩)

def itemsExtent : List Tree → Extent
  | [] => ⟨0, true⟩
  | item :: rest => (extent item).before (itemsExtent rest)

def membersExtent : List (Tree × Tree) → Extent
  | [] => ⟨0, true⟩
  | (key, value) :: rest => ((extent key).before (extent value)).before (membersExtent rest)

end

/-- How many references may be followed for every mark in the text. -/
def followsPerMark : Nat := 100

def read {α : Type} (reader : Reader α) (bytes : List UInt8) : Except ReadFault α := do
  let (root, whole) := document (tokens (decode bytes))
  let (tree, _, targets) := root.link (some [])
  let follows := followsPerMark * (extent tree).marks
  let value ← (reader (format targets) maxLevels tree).run' follows
  if whole then return value else throw .malformed

end ClassAtlas.Yaml
