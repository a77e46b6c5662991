import ClassAtlas.Descriptor

/-! Identifiers of classes, methods and fields in the two naming dialects. The
binary dialect writes `Lcom/example/Foo;->bar(I)V`, the source dialect
`com.example.Foo.bar(int):void`. Which dialect a text is in is decided by its
surface alone; converting a member reference reads it and writes it again. -/
namespace ClassAtlas

inductive Dialect where
  | binary
  | source
  deriving DecidableEq

inductive SymbolKind where
  | type
  | method
  | field
  deriving DecidableEq

structure Signature where
  dialect : Dialect
  kind : SymbolKind
  text : String
  deriving DecidableEq

def memberArrow : List Char := ['-', '>']

def fieldMark : List Char := [' ', ':']

/-- A text of the binary dialect holds a slash, or stands between `L` and `;`,
or starts with `[`. -/
def isBinary (text : List Char) : Bool :=
  text.contains '/' || (text.head? == some 'L' && text.getLast? == some ';') ||
    text.head? == some '['

/-- The dialect of an identifier. The empty one has none. -/
def classify (identifier : String) : Except Failure Dialect :=
  if identifier.toList.isEmpty then .error .emptyIdentifier
  else .ok (if isBinary identifier.toList then .binary else .source)

/-- In a binary text an arrow marks a member, and a parenthesis after it a
method. In a source text a parenthesis marks a method and ` :` a field. -/
def kindOf (dialect : Dialect) (text : List Char) : SymbolKind :=
  match dialect with
  | .binary =>
    match Text.cutAt memberArrow text with
    | some (_, member) => if member.contains '(' then .method else .field
    | none => .type
  | .source =>
    if text.contains '(' then .method
    else if Text.occursIn fieldMark text then .field
    else .type

def Signature.infer (identifier : String) : Except Failure Signature := do
  let dialect ← classify identifier
  return ⟨dialect, kindOf dialect identifier.toList, identifier⟩

/-- The internal name of the class descriptor that starts a text, and what
follows the descriptor. -/
def leadingOwner (text : List Char) : Option (List Char × List Char) :=
  match text with
  | 'L' :: rest =>
    match Text.cutFirst ';' rest with
    | some (name, after) => if name.isEmpty then none else some (name, after)
    | none => none
  | _ => none

def ownerDescriptor (name : List Char) : String :=
  String.ofList (TypeDescriptor.object name).encode

def splitMember (reference : String) : Except Failure (String × List Char) :=
  match leadingOwner reference.toList with
  | some (name, '-' :: '>' :: member) => do
    let owner ← typeNameToSource (ownerDescriptor name)
    return (owner, member)
  | _ => .error (.malformedReference reference)

/-- A method reference as a signature: `Lcom/example/Abc;->run(I)V` becomes
`com.example.Abc.run(int):void`. -/
def methodReferenceToSource (reference : String) : Except Failure String := do
  let (owner, member) ← splitMember reference
  match Text.cutFirst '(' member with
  | some (name, inside) =>
    if name.isEmpty then throw (.malformedReference reference)
    let d ← MethodDescriptor.parse (String.ofList ('(' :: inside))
    let parameters := [',', ' '].intercalate (d.parameters.map TypeDescriptor.sourceChars)
    return String.ofList
      (owner.toList ++ '.' :: name ++ '(' :: parameters ++ ')' :: ':' :: d.result.sourceChars)
  | none => throw (.malformedReference reference)

/-- A field reference as a signature: `Lcom/example/Abc;->count:I` becomes
`com.example.Abc.count :int`. -/
def fieldReferenceToSource (reference : String) : Except Failure String := do
  let (owner, member) ← splitMember reference
  match Text.cutFirst ':' member with
  | some (name, descriptor) =>
    if name.isEmpty || descriptor.isEmpty then throw (.malformedReference reference)
    let type ← typeNameToSource (String.ofList descriptor)
    return String.ofList (owner.toList ++ '.' :: name ++ fieldMark ++ type.toList)
  | none => throw (.malformedReference reference)

/-- Any identifier in the source dialect; one that is in it already is kept. -/
def toSource (identifier : String) : Except Failure String := do
  let signature ← Signature.infer identifier
  match signature.dialect, signature.kind with
  | .binary, .type => typeNameToSource identifier
  | .binary, .method => methodReferenceToSource identifier
  | .binary, .field => fieldReferenceToSource identifier
  | .source, _ => return identifier

/-- An argument in either dialect, in the source dialect. -/
def inSource (convert : String → Except Failure String) (identifier : String) :
    Except Failure String := do
  match ← classify identifier with
  | .binary => convert identifier
  | .source => return identifier

/-- A class argument, as a source name. -/
def normalizeClassName (identifier : String) : Except Failure String :=
  inSource typeNameToSource identifier

/-- A method argument, as a source signature. -/
def normalizeMethod (identifier : String) : Except Failure String :=
  inSource methodReferenceToSource identifier

/-- A field argument, as a source signature. -/
def normalizeField (identifier : String) : Except Failure String :=
  inSource fieldReferenceToSource identifier

/-- The part of a source signature before its parameter list, or before the ` :`
of its field type if it has no parameter list. -/
def signatureHead (reference : List Char) : List Char :=
  match Text.cutFirst '(' reference with
  | some (head, _) => head
  | none =>
    match Text.cutAt fieldMark reference with
    | some (head, _) => head
    | none => reference

/-- The class that a source signature names as the owner of its member: what
stands before the last dot of its head, if anything does. -/
def ownerInSource (reference : String) : Option String :=
  match Text.cutLast '.' (signatureHead reference.toList) with
  | some (owner, _) => if owner.isEmpty then none else some (String.ofList owner)
  | none => none

/-- The owning class of an identifier, as a source name. A binary identifier has
to start with a class descriptor, which for a member is its owner. -/
def owningClass (identifier : String) : Except Failure String := do
  match ← classify identifier with
  | .binary =>
    match leadingOwner identifier.toList with
    | some (name, _) => typeNameToSource (ownerDescriptor name)
    | none => throw (.malformedDescriptor identifier)
  | .source =>
    match ownerInSource identifier with
    | some owner => return owner
    | none => throw (.malformedReference identifier)

end ClassAtlas
