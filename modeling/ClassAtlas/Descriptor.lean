import ClassAtlas.Text.Cut
import ClassAtlas.Failure

/-! Type and method descriptors of the binary dialect: their written form
(`encode`), their reader, and their names in the source dialect. The readers
accept the written forms of well-formed types and nothing else. -/
namespace ClassAtlas

inductive Primitive where
  | boolean | char | byte | short | int | float | long | double
  deriving DecidableEq

namespace Primitive

def code : Primitive → Char
  | boolean => 'Z'
  | char => 'C'
  | byte => 'B'
  | short => 'S'
  | int => 'I'
  | float => 'F'
  | long => 'J'
  | double => 'D'

def ofCode? : Char → Option Primitive
  | 'Z' => some boolean
  | 'C' => some char
  | 'B' => some byte
  | 'S' => some short
  | 'I' => some int
  | 'F' => some float
  | 'J' => some long
  | 'D' => some double
  | _ => none

def keyword : Primitive → String
  | boolean => "boolean"
  | char => "char"
  | byte => "byte"
  | short => "short"
  | int => "int"
  | float => "float"
  | long => "long"
  | double => "double"

@[simp] theorem ofCode?_code (p : Primitive) : ofCode? p.code = some p := by
  cases p <;> rfl

end Primitive

inductive TypeDescriptor where
  | void
  | primitive (p : Primitive)
  /-- An object type by its internal name, with slashes and without the
  enclosing `L` and `;`. -/
  | object (name : List Char)
  | array (element : TypeDescriptor)
  deriving DecidableEq

/-- The last digits-only segment after a `$` numbers an anonymous class. -/
def anonymousDigits (suffix : List Char) : Bool :=
  !suffix.isEmpty && suffix.all Char.isDigit

/-- What stands between the enclosing class and the number in the source name of
an anonymous class. -/
def anonymousMark : List Char := ".AnonymousClass".toList

/-- A numbered nested class `Outer$3` is named `Outer.AnonymousClass3`; a named
nested class keeps its `$`. Only the segment after the last `$` counts. -/
def normalizeSynthetic (name : List Char) : List Char :=
  match Text.cutLast '$' name with
  | some (outer, suffix) =>
    if anonymousDigits suffix then outer ++ anonymousMark ++ suffix else name
  | none => name

def dotted (internal : List Char) : List Char :=
  internal.map fun c => if c = '/' then '.' else c

/-- An internal name can be written between `L` and `;`, and is not mistaken for
a parameter list or an array. -/
def isObjectName (name : List Char) : Bool :=
  !name.isEmpty && name.all fun c => c != ';' && c != '(' && c != ')' && c != '['

namespace TypeDescriptor

def encode : TypeDescriptor → List Char
  | void => ['V']
  | primitive p => [p.code]
  | object name => 'L' :: name ++ [';']
  | array element => '[' :: element.encode

/-- Object names are writable and no array holds void. -/
def WellFormed : TypeDescriptor → Prop
  | void | primitive _ => True
  | object name => isObjectName name
  | array element => element ≠ void ∧ element.WellFormed

/-- Read one type at the start of a text. Void is accepted only where
`allowVoid` says so, and never inside an array. -/
def read (allowVoid : Bool) : List Char → Option (TypeDescriptor × List Char)
  | [] => none
  | c :: rest =>
    if c = 'V' then
      if allowVoid then some (void, rest) else none
    else if c = 'L' then
      match Text.cutFirst ';' rest with
      | some (name, after) => if isObjectName name then some (object name, after) else none
      | none => none
    else if c = '[' then
      (read false rest).map fun found => (array found.1, found.2)
    else
      (Primitive.ofCode? c).map fun p => (primitive p, rest)

/-- What is left after a type is shorter, so reading types one after another
ends. -/
theorem read_length {allowVoid : Bool} {text rest : List Char} {t : TypeDescriptor}
    (h : read allowVoid text = some (t, rest)) : rest.length < text.length := by
  induction text generalizing allowVoid t with
  | nil => simp [read] at h
  | cons c tail ih =>
    unfold read at h
    split at h
    · split at h
      · cases h; simp
      · cases h
    · split at h
      · split at h
        · next name after cut =>
          split at h
          · cases h
            have := Text.cutFirst_length cut
            simp only [List.length_cons]
            omega
          · cases h
        · cases h
      · split at h
        · obtain ⟨found, inner, same⟩ := Option.map_eq_some_iff.1 h
          cases same
          have := ih inner
          simp only [List.length_cons]
          omega
        · obtain ⟨p, _, same⟩ := Option.map_eq_some_iff.1 h
          cases same
          simp

def parse (text : String) : Except Failure TypeDescriptor :=
  match read true text.toList with
  | some (t, []) => .ok t
  | _ => .error (.malformedDescriptor text)

def sourceChars : TypeDescriptor → List Char
  | void => "void".toList
  | primitive p => p.keyword.toList
  | object name => normalizeSynthetic (dotted name)
  | array element => element.sourceChars ++ ['[', ']']

def sourceName (t : TypeDescriptor) : String :=
  String.ofList t.sourceChars

def depth : TypeDescriptor → Nat
  | array element => element.depth + 1
  | _ => 0

/-- The type without its array brackets. -/
def base : TypeDescriptor → TypeDescriptor
  | array element => element.base
  | t => t

end TypeDescriptor

structure MethodDescriptor where
  parameters : List TypeDescriptor
  result : TypeDescriptor
  deriving DecidableEq

namespace MethodDescriptor

def encode (d : MethodDescriptor) : List Char :=
  '(' :: d.parameters.flatMap TypeDescriptor.encode ++ ')' :: d.result.encode

/-- Parameters are well-formed and not void; the result may be void. -/
def WellFormed (d : MethodDescriptor) : Prop :=
  (∀ p ∈ d.parameters, p ≠ .void ∧ p.WellFormed) ∧ d.result.WellFormed

def readParameters (text : List Char) : Option (List TypeDescriptor × List Char) :=
  match text with
  | ')' :: rest => some ([], rest)
  | text =>
    match _h : TypeDescriptor.read false text with
    | some (first, rest) => (readParameters rest).map fun found => (first :: found.1, found.2)
    | none => none
termination_by text.length
decreasing_by exact TypeDescriptor.read_length ‹_›

def read? (text : List Char) : Option MethodDescriptor :=
  match text with
  | '(' :: inside =>
    match readParameters inside with
    | some (parameters, rest) =>
      match TypeDescriptor.read true rest with
      | some (result, []) => some ⟨parameters, result⟩
      | _ => none
    | none => none
  | _ => none

def parse (text : String) : Except Failure MethodDescriptor :=
  match read? text.toList with
  | some d => .ok d
  | none => .error (.malformedDescriptor text)

end MethodDescriptor

def typeNameToSource (descriptor : String) : Except Failure String :=
  (TypeDescriptor.parse descriptor).map TypeDescriptor.sourceName

end ClassAtlas
