import ClassAtlas.Command.Request
import ClassAtlas.Exchange.Service
import ClassAtlas.Instance.Query
import ClassAtlas.Provider.Snapshot

/-! The answers to requests. An answer is the text that is printed, or a complaint:
what was tried, and what stood in its way. -/
namespace ClassAtlas.Command

/-- What could not be done, and why. -/
structure Complaint where
  context : String
  causes : List String := []

namespace Complaint

def ofFailure (why : Failure) : Complaint := ⟨why.message, []⟩

def inline (c : Complaint) : String :=
  ": ".intercalate (c.context :: c.causes)

end Complaint

def attempt {α : Type} (context : String) : Except Failure α → Except Complaint α
  | .ok a => .ok a
  | .error why => .error ⟨context, [why.message]⟩

/-- The same for a source that could not be reconstructed. -/
def attemptSource {α : Type} (context : String) : Except Mishap α → Except Complaint α
  | .ok a => .ok a
  | .error (.failure why) => .error ⟨context, [why.message]⟩
  | .error .crash => .error ⟨context, ["the provider crashed"]⟩

def plainly {α : Type} : Except Failure α → Except Complaint α
  | .ok a => .ok a
  | .error why => .error (.ofFailure why)

structure Surroundings where
  world : World
  folder : String
  /-- The shortest absolute path to the same place, if there is anything. -/
  canonical? : String → Option String
  environment : String → Option String

def line (text : String) : String := text ++ "\n"

def lines (texts : List String) : String :=
  String.join (texts.map line)

def writeJson (j : Json) : String := line j.indented

/-- A single value, as it is or as JSON. -/
def writeValue (json : Bool) (value : String) : String :=
  if json then writeJson (.string value) else line value

/-- Lines under a heading that counts them. -/
def writeLines (label : String) (texts : List String) : String :=
  let heading := s!"{label} ({texts.length}):"
  if texts.isEmpty then lines [heading, "  (none)"]
  else lines (heading :: texts.map fun text => s!"  - {text}")

def writeList (label : String) (json : Bool) (items : List String) : String :=
  if json then writeJson (.strings items) else writeLines label items

/-- The path of an input, made absolute. One that leads nowhere is kept as it is
written, for the complaint about it. -/
def inputPath (s : Surroundings) (input : String) : String :=
  let path := Path.join s.folder input
  if input = "" then path else (s.canonical? path).getD path

def readConfig (s : Surroundings) : Except Complaint ServiceConfig :=
  match ServiceConfig.read s.environment with
  | .ok c => .ok c
  | .error fault => .error ⟨"Failed to read configuration", [fault.message]⟩

/-- The provider with a name, or the configured one. -/
def findProvider (s : Surroundings) (name : Option String) : Except Complaint Provider := do
  let name ←
    match name with
    | some name => pure name
    | none => do pure (← readConfig s).provider
  match ProviderRegistry.default.get? name with
  | some p => return p
  | none =>
    let known := ", ".intercalate ProviderRegistry.default.names
    throw ⟨s!"Unknown provider '{name}'. Available: {known}", []⟩

def instanceId : String := "cli"

def openProgram (s : Surroundings) (options : ProgramOptions) :
    Except Complaint ProgramInstance := do
  let path := inputPath s options.input
  let provider ← findProvider s options.provider
  let i : ProgramInstance := ⟨instanceId, path, provider, none⟩
  let (outcome, i) := if s.world.isFolder path then i.loadFolder s.world else i.load s.world
  attempt s!"Failed to load program from {path}" outcome
  return i

/-- The owner of a member: the class that is named, or else the class that the
signature of the member names. -/
def memberOwner (owner : Option String) (member : String) : Except Complaint String :=
  match owner with
  | some c => .ok c
  | none => attempt s!"Cannot determine the class of '{member}'; pass --class" (owningClass member)

def SymbolKind.describe : SymbolKind → String
  | .type => "class"
  | .method => "method"
  | .field => "field"

def writeDialect (json : Bool) (identifier : String) (found : Signature) : String :=
  if json then
    writeJson (.object [("input", .string identifier), ("kind", .string found.kindName),
      ("text", .string found.text)])
  else
    lines [s!"Input: {identifier}", s!"Dialect: {found.dialect.name}",
      s!"Kind: {SymbolKind.describe found.kind}"]

def writeInfo (json : Bool) (info : InstanceInfo) : String :=
  if json then writeJson info.toJson
  else
    let fingerprint := info.fingerprint.getD "-"
    let loadedAt := info.loadedAt.getD "-"
    lines ["Program Info", "============", s!"Path: {info.path}", s!"Provider: {info.provider}",
      s!"Classes: {info.classCount.getD 0}", s!"Fingerprint: {fingerprint}",
      s!"Loaded at: {loadedAt}"]

def describeProvider (name : String) : String :=
  if name = "snapshot" then "Program models exported as JSON or YAML (.json, .yaml, .yml)"
  else s!"Provider '{name}'"

def writeProviders (json : Bool) (names : List String) : String :=
  if json then
    writeJson (.array (names.map fun name =>
      .object [("name", .string name), ("description", .string (describeProvider name))]))
  else if names.isEmpty then line "Providers: (none)"
  else lines ("Providers:" :: names.map fun name => s!"- {name}: {describeProvider name}")

def writeConfig (json : Bool) (c : ServiceConfig) : String :=
  if json then writeJson c.toJson
  else
    lines ["Configuration", "=============", s!"Address: {c.address}",
      s!"Max instances: {c.maxInstances}", s!"Provider: {c.provider}"]

def writeAidlClasses (json : Bool) (entries : List (String × Option String)) : String :=
  if json then
    writeJson (.array (entries.map fun entry =>
      .object [("interface", .string entry.1), ("implementation", .ofOption .string entry.2)]))
  else
    writeLines "AIDL interfaces" (entries.map fun entry =>
      entry.1 ++ " -> " ++ entry.2.getD "(no implementation)")

/-- The heading of a list, and its name within a sentence. -/
def ClassList.label : ClassList → String × String
  | interfaces => ("Interfaces", "interfaces")
  | methods => ("Methods", "methods")
  | fields => ("Fields", "fields")
  | callers => ("Callers", "callers")

def MemberList.label : MemberList → String × String
  | methodCallers | fieldCallers => ("Callers", "callers")
  | methodOverrides => ("Overrides", "overrides")

def ClassList.items (kind : ClassList) (i : ProgramInstance) (className : String) :
    Except Failure (List String) :=
  match kind with
  | interfaces => i.interfaces className
  | methods => i.classMethods className
  | fields => i.classFields className
  | callers => i.classCallers className

def MemberList.items (kind : MemberList) (i : ProgramInstance) (owner member : String) :
    Except Failure (List String) :=
  match kind with
  | methodCallers => i.methodCallers owner member
  | methodOverrides => i.methodOverrides owner member
  | fieldCallers => i.fieldCallers owner member

/-- The implementation of every name, looked up one after the other. -/
def resolveEach (i : ProgramInstance) : List String → Except Failure (List (String × Option String))
  | [] => .ok []
  | name :: rest =>
    match i.aidlInterface name false with
    | (.ok found, i) => do return (name, found.implementation) :: (← resolveEach i rest)
    | (.error why, _) => .error why

def aidlClasses (i : ProgramInstance) : Except Failure (List (String × Option String)) :=
  match i.searchAidlClasses with
  | (.ok names, i) => resolveEach i names
  | (.error why, _) => .error why

def aidlImplementation (i : ProgramInstance) (interfaceName : String) (force : Bool) :
    Except Complaint String := do
  let found ← attempt s!"Failed to resolve AIDL interface {interfaceName}"
    (i.aidlInterface interfaceName force).1
  match found.implementation with
  | some c => return c
  | none => throw ⟨s!"No implementation found for {found.interfaceName}", []⟩

def answerQuery (i : ProgramInstance) (json : Bool) : Query → Except Complaint String
  | .info => .ok (writeInfo json i.info)
  | .classes => do return writeList "Classes" json (← plainly i.allClasses)
  | .manifest => do return writeValue json (← attempt "Failed to read the manifest" i.manifest)
  | .classSource c => do
    return writeValue json (← attemptSource s!"Failed to get the source of {c}" (i.classSource c))
  | .methodSource owner method => do
    let owner ← memberOwner owner method
    return writeValue json
      (← attemptSource s!"Failed to get the source of {method}" (i.methodSource owner method))
  | .superclass c => do
    return writeValue json (← attempt s!"Failed to get the superclass of {c}" (i.superclass c))
  | .classList kind c => do
    let (heading, name) := kind.label
    return writeList heading json (← attempt s!"Failed to list {name} of {c}" (kind.items i c))
  | .memberList kind owner member => do
    let (heading, name) := kind.label
    let owner ← memberOwner owner member
    return writeList heading json
      (← attempt s!"Failed to list {name} of {member}" (kind.items i owner member))
  | .search text => do return writeList "Matches" json (← plainly (i.searchText text))
  | .aidlClasses => do return writeAidlClasses json (← plainly (aidlClasses i))
  | .aidlMethods c => do
    return writeList "AIDL methods" json
      (← attempt s!"Failed to get AIDL methods of {c}" (i.aidlMethods c).1)
  | .aidlImplementation c force => do return writeValue json (← aidlImplementation i c force)

def answer (s : Surroundings) : Request → Except Complaint String
  | .convert text json => do
    return writeValue json (← attempt s!"Failed to convert '{text}'" (toSource text))
  | .className text json => do
    return writeValue json
      (← attempt s!"Failed to extract a class name from '{text}'" (owningClass text))
  | .dialect text json => do
    return writeDialect json text (← attempt s!"Failed to classify '{text}'" (Signature.infer text))
  | .ask options query => do answerQuery (← openProgram s options) options.json query
  | .providers json => .ok (writeProviders json ProviderRegistry.default.names)
  | .config json => do return writeConfig json (← readConfig s)

end ClassAtlas.Command
