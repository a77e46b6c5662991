import ClassAtlas.Text.Printable

/-! A structured text as a tree. Reading a text never fails as a whole: where its
grammar breaks off, the tree ends in a `fault`, and what stood before it is still
there. Whoever reads values out of the tree from left to right therefore meets the
first problem first, be it a broken text or an unsuitable value. -/
namespace ClassAtlas.Document

inductive Found where
  | integer (n : Int)
  | decimal (digits : String)
  | boolean (b : Bool)
  | text (s : String)
  | null
  | nothing
  | list
  | record
  | other (description : String)
  deriving DecidableEq

def Found.describe : Found → String
  | .integer n => s!"integer `{n}`"
  | .decimal digits => s!"floating point `{digits}`"
  | .boolean b => s!"boolean `{b}`"
  | .text s => s!"string {Text.quoted s}"
  | .null => "null"
  | .nothing => "unit value"
  | .list => "sequence"
  | .record => "map"
  | .other description => description

/-- Why no value can be read. -/
inductive ReadFault where
  | malformed
  | missingField (name : String)
  | duplicateField (name : String)
  | invalidType (found : Found) (wanted : String)
  | invalidValue (found : Found) (wanted : String)
  | invalidLength (count : Nat) (wanted : String)
  | unknownVariant (name : String) (known : List String)
  deriving DecidableEq

def oneOf : List String → String
  | [a] => s!"`{a}`"
  | [a, b] => s!"`{a}` or `{b}`"
  | names => "one of " ++ ", ".intercalate (names.map fun a => s!"`{a}`")

def ReadFault.message : ReadFault → String
  | .malformed => "syntax error"
  | .missingField name => s!"missing field `{name}`"
  | .duplicateField name => s!"duplicate field `{name}`"
  | .invalidType found wanted => s!"invalid type: {found.describe}, expected {wanted}"
  | .invalidValue found wanted => s!"invalid value: {found.describe}, expected {wanted}"
  | .invalidLength count wanted => s!"invalid length {count}, expected {wanted}"
  | .unknownVariant name known => s!"unknown variant `{name}`, expected {oneOf known}"

/-- A value without parts, by what may be read from it. -/
structure Scalar where
  /-- What it is, or why that cannot be told. -/
  found : Except ReadFault Found
  text : Option String
  unset : Except ReadFault Bool
  blank : Bool

/-- A scalar that is read only as what it is. -/
def Scalar.plain (found : Found) : Scalar := ⟨.ok found, none, .ok false, false⟩

inductive Tree where
  | fault
  | scalar (s : Scalar)
  | list (items : List Tree)
  | record (members : List (Tree × Tree))
  | reference (target : Nat)

namespace Tree

mutual

/-- No fault anywhere inside. A value that nobody reads is only checked for
this. -/
def isSound : Tree → Bool
  | fault => false
  | scalar _ => true
  | list items => areSound items
  | record members => areMembersSound members
  | reference _ => true

def areSound : List Tree → Bool
  | [] => true
  | t :: rest => t.isSound && areSound rest

def areMembersSound : List (Tree × Tree) → Bool
  | [] => true
  | (key, value) :: rest => key.isSound && value.isSound && areMembersSound rest

end

end Tree

end ClassAtlas.Document
