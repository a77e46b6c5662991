import ClassAtlas.Document.Tree

/-! Typed values read from a tree. Lists are read item by item; a record is read
by its `Layout`, member by member in the order of the text, and what it does not
mention is settled at its end. Every list or record that is entered uses up one
level of the nesting that a format allows; values that nobody reads use up none. -/
namespace ClassAtlas.Document

structure Format where
  /-- Whether a record may also be written as the list of its fields. -/
  positional : Bool
  target : Nat → Tree

/-- A step of reading. The state counts the references that may still be followed,
so that a short text cannot stand for an endless value. -/
abbrev Read := StateT Nat (Except ReadFault)

abbrev Reader (α : Type) := Format → Nat → Tree → Read α

/-- A tree with its reference followed. References lead to values only. -/
def Tree.follow (format : Format) : Tree → Read Tree
  | .reference n => do
    match ← get with
    | 0 => throw .malformed
    | left + 1 =>
      set left
      match format.target n with
      | .reference _ => throw .malformed
      | t => return t
  | t => return t

/-- Refuse a tree that is not what was wanted. -/
def Tree.refuse {α : Type} (wanted : String) : Tree → Read α
  | .fault | .reference _ => throw .malformed
  | .scalar s =>
    match s.found with
    | .ok found => throw (.invalidType found wanted)
    | .error why => throw why
  | .list _ => throw (.invalidType .list wanted)
  | .record _ => throw (.invalidType .record wanted)

namespace Reader

variable {α : Type}

/-- A text, named `wanted` where something else stands. -/
def text (wanted : String) : Reader String := fun format _ t => do
  match ← t.follow format with
  | .scalar s =>
    match s.text with
    | some value => return value
    | none => (Tree.scalar s).refuse wanted
  | t => t.refuse wanted

def string : Reader String := text "a string"

def fieldName : Reader String := text "field identifier"

def boolean : Reader Bool := fun format _ t => do
  match ← t.follow format with
  | .scalar s =>
    match s.found with
    | .ok (.boolean b) => return b
    | _ => (Tree.scalar s).refuse "a boolean"
  | t => t.refuse "a boolean"

/-- A whole number below `bound`. -/
def natural (bound : Nat) (wanted : String) : Reader Nat := fun format _ t => do
  match ← t.follow format with
  | .scalar s =>
    match s.found with
    | .ok (.integer n) =>
      if 0 ≤ n ∧ n < bound then return n.toNat else throw (.invalidValue (.integer n) wanted)
    | _ => (Tree.scalar s).refuse wanted
  | t => t.refuse wanted

def optional (item : Reader α) : Reader (Option α) := fun format levels t => do
  match ← t.follow format with
  | .scalar s =>
    match s.unset with
    | .ok true => return none
    | .ok false => return some (← item format levels (.scalar s))
    | .error why => throw why
  | t => return some (← item format levels t)

/-- A list, each item read with one level less. -/
def list (item : Reader α) : Reader (List α) := fun format levels t => do
  match ← t.follow format with
  | .list items =>
    match levels with
    | 0 => throw .malformed
    | levels + 1 => items.mapM (item format levels)
  | .scalar s => if s.blank then return [] else (Tree.scalar s).refuse "a sequence"
  | t => t.refuse "a sequence"

end Reader

/-- What becomes of a record that does not mention a field. -/
inductive Need where
  | required
  /-- The field is unset, but a record written as a list must not end before it. -/
  | named
  | defaulted
  deriving DecidableEq

/-- A field of records of type `α`: how its value is read and put in place. -/
structure Field (α : Type) where
  name : String
  need : Need
  put : Format → Nat → Tree → α → Read α

def Field.of {α β : Type} (name : String) (need : Need) (reader : Reader β) (set : β → α → α) :
    Field α :=
  ⟨name, need, fun format levels t a => do return set (← reader format levels t) a⟩

/-- The fields of a record in the order of their declaration, and the record that
has only default values. -/
structure Layout (α : Type) where
  title : String
  fields : List (Field α)
  blank : α

namespace Layout

variable {α : Type}

/-- Read members in the order of the text. `seen` names the fields that were
mentioned so far. Members that are no field are only checked. -/
def readMembers (layout : Layout α) (format : Format) (levels : Nat) (seen : List String)
    (value : α) : List (Tree × Tree) → Read (List String × α)
  | [] => return (seen, value)
  | (key, t) :: rest => do
    let name ← Reader.fieldName format levels key
    match layout.fields.find? fun field => field.name = name with
    | some field =>
      if seen.contains name then throw (.duplicateField name)
      layout.readMembers format levels (name :: seen) (← field.put format levels t value) rest
    | none =>
      if t.isSound then layout.readMembers format levels seen value rest
      else throw .malformed

/-- The first required field that was not mentioned, in order of declaration. -/
def missing? (layout : Layout α) (seen : List String) : Option String :=
  (layout.fields.find? fun field => field.need = .required && !seen.contains field.name).map
    Field.name

/-- Read the fields of a record that is written as a list. `index` counts the
fields before. -/
def readItems (format : Format) (levels : Nat) (wanted : String) (index : Nat) (value : α) :
    List (Field α) → List Tree → Read α
  | [], [] => return value
  | [], _ :: _ => throw .malformed
  | field :: fields, [] =>
    if field.need = .defaulted then readItems format levels wanted (index + 1) value fields []
    else throw (.invalidLength index wanted)
  | field :: fields, t :: rest => do
    readItems format levels wanted (index + 1) (← field.put format levels t value) fields rest

/-- Read the members of a record, and settle what they do not mention. -/
def readRecord (layout : Layout α) (format : Format) (levels : Nat) (members : List (Tree × Tree)) :
    Read α := do
  let (seen, value) ← layout.readMembers format levels [] layout.blank members
  match layout.missing? seen with
  | some name => throw (.missingField name)
  | none => return value

def wantedItems (layout : Layout α) : String :=
  s!"{layout.title} with {layout.fields.length} elements"

def reader (layout : Layout α) : Reader α := fun format levels t => do
  match ← t.follow format, levels with
  | .record _, 0 => throw .malformed
  | .record members, levels + 1 => layout.readRecord format levels members
  | .list items, levels =>
    if format.positional then
      match levels with
      | 0 => throw .malformed
      | levels + 1 =>
        readItems format levels layout.wantedItems 0 layout.blank layout.fields items
    else Tree.refuse layout.title (.list items)
  | .scalar s, levels =>
    if s.blank then layout.readRecord format levels [] else (Tree.scalar s).refuse layout.title
  | t, _ => t.refuse layout.title

end Layout

end ClassAtlas.Document
