import ClassAtlas.Document.Tree

/-! Why an operation has no answer. Each failure is a cause; its wording is
written in one place, `Failure.message`. -/
namespace ClassAtlas

/-- Something a loaded program does not have. -/
inductive Absent where
  | manifest
  | type (name : String)
  | method (signature : String)
  | field (signature : String)
  | methodSource (signature : String)
  | aidlShape (name : String)
  | implementation (interfaceName : String)
  deriving DecidableEq

def Absent.describe : Absent → String
  | .manifest => "AndroidManifest.xml"
  | .type name => s!"class {name}"
  | .method signature => s!"method {signature}"
  | .field signature => s!"field {signature}"
  | .methodSource signature => s!"source of {signature}"
  | .aidlShape name => s!"{name} is not an AIDL interface"
  | .implementation interfaceName => s!"implementation of {interfaceName}"

/-- Why the bytes at a path could not be had. -/
inductive Obstacle where
  | missing
  | notFolder
  | isFolder
  | other (reason : String)
  deriving DecidableEq

def Obstacle.describe : Obstacle → String
  | .missing => "No such file or directory (os error 2)"
  | .notFolder => "Not a directory (os error 20)"
  | .isFolder => "Is a directory (os error 21)"
  | .other reason => reason

/-- Why a path is no program input. -/
inductive PathFault where
  | noSuchFile
  | notAFile
  | noSuchDirectory
  | notADirectory
  | nothingLoadable
  | unsupportedExtension
  | unlistable (why : Obstacle)
  | unreadable (why : Obstacle)
  deriving DecidableEq

def PathFault.describe : PathFault → String
  | .noSuchFile => "no such file"
  | .notAFile => "not a file"
  | .noSuchDirectory => "no such directory"
  | .notADirectory => "not a directory"
  | .nothingLoadable => "contains no loadable inputs"
  | .unsupportedExtension => "unsupported snapshot extension"
  | .unlistable why => s!"cannot read directory: {why.describe}"
  | .unreadable why => s!"failed to read: {why.describe}"

inductive Failure where
  /-- A question about the program while none is bound. -/
  | notLoaded
  | invalidPath (path : String) (fault : PathFault)
  | malformedDescriptor (text : String)
  | malformedReference (text : String)
  | emptyIdentifier
  | notFound (what : Absent)
  /-- One class could not be reconstructed. -/
  | unreadableClass (name reason : String)
  | unparsable (path : String) (fault : Document.ReadFault)
  /-- A failure of the provider that no other case covers. -/
  | provider (reason : String)
  deriving DecidableEq

def Failure.message : Failure → String
  | .notLoaded => "No program is loaded"
  | .invalidPath path fault => s!"Invalid source path {path}: {fault.describe}"
  | .malformedDescriptor text => s!"Malformed descriptor: {text}"
  | .malformedReference text => s!"Malformed reference: {text}"
  | .emptyIdentifier => "Malformed reference: empty identifier"
  | .notFound what => s!"Not found: {what.describe}"
  | .unreadableClass name reason => s!"Failed to process class {name}: {reason}"
  | .unparsable path fault => s!"Provider error: failed to parse {path}: {fault.message}"
  | .provider reason => s!"Provider error: {reason}"

def Failure.isMalformed : Failure → Bool
  | .malformedDescriptor _ | .malformedReference _ | .emptyIdentifier => true
  | _ => false

def Failure.isNotFound : Failure → Bool
  | .notFound _ => true
  | _ => false

/-! Steps that may fail, one after the other: the first failure is that of all. -/

section Steps
variable {α β : Type} {first : Except Failure α} {next : α → Except Failure β}

theorem bind_eq_ok_iff {b : β} :
    (first >>= next) = .ok b ↔ ∃ a, first = .ok a ∧ next a = .ok b := by
  cases first <;> simp [bind, Except.bind]

theorem bind_eq_error_iff {why : Failure} :
    (first >>= next) = .error why ↔
      first = .error why ∨ ∃ a, first = .ok a ∧ next a = .error why := by
  cases first <;> simp [bind, Except.bind]

end Steps

/-- What may happen instead of an answer while a source is reconstructed: a failure
is reported, or the reconstruction crashes. -/
inductive Mishap where
  | failure (why : Failure)
  | crash
  deriving DecidableEq

end ClassAtlas
