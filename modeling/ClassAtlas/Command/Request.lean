import ClassAtlas.Command.Words

/-! What can be asked for on the command line. Every command has a form, and the
words that fit it make a request. -/
namespace ClassAtlas.Command

/-- Where a program is loaded from, and how the answer is written. -/
structure ProgramOptions where
  input : String
  /-- The provider, the configured one if none is named. -/
  provider : Option String
  json : Bool

inductive ClassList where
  | interfaces
  | methods
  | fields
  | callers
  deriving DecidableEq

inductive MemberList where
  | methodCallers
  | methodOverrides
  | fieldCallers
  deriving DecidableEq

/-- A question about a program. The owner of a member may be left to its
signature. -/
inductive Query where
  | info
  | classes
  | manifest
  | classSource (className : String)
  | methodSource (owner : Option String) (method : String)
  | superclass (className : String)
  | classList (kind : ClassList) (className : String)
  | memberList (kind : MemberList) (owner : Option String) (member : String)
  | search (text : String)
  | aidlClasses
  | aidlMethods (interfaceName : String)
  | aidlImplementation (interfaceName : String) (force : Bool)

inductive Request where
  | convert (identifier : String) (json : Bool)
  | className (identifier : String) (json : Bool)
  | dialect (identifier : String) (json : Bool)
  | ask (options : ProgramOptions) (query : Query)
  | providers (json : Bool)
  | config (json : Bool)

/-- A command: its name, its form and the request that its words make. -/
structure Verb where
  name : String
  form : Form
  request : Given → Request

/-- The setting that is allowed everywhere. It only chooses what is logged. -/
def logLevel : Setting := .valued "log-level"

def jsonFlag : Setting := .flag "json"

def Given.text (g : Given) (name : String) : String :=
  (g.value? name).getD ""

def Verb.onIdentifier (name : String) (request : String → Bool → Request) : Verb where
  name := name
  form := ⟨true, [jsonFlag, logLevel]⟩
  request g := request (g.argument.getD "") (g.has "json")

/-- A command on nothing but the tool itself. -/
def Verb.onTool (name : String) (request : Bool → Request) : Verb where
  name := name
  form := ⟨false, [jsonFlag, logLevel]⟩
  request g := request (g.has "json")

/-- A command on a program, with settings of its own. -/
def Verb.onProgram (name : String) (settings : List Setting) (query : Given → Query) : Verb where
  name := name
  form := ⟨false, [.needed "input", .valued "provider", jsonFlag, logLevel] ++ settings⟩
  request g := .ask ⟨g.text "input", g.value? "provider", g.has "json"⟩ (query g)

def Verb.onClass (name : String) (query : String → Query) : Verb :=
  onProgram name [.needed "class"] fun g => query (g.text "class")

def Verb.onMember (name member : String) (query : Option String → String → Query) : Verb :=
  onProgram name [.valued "class", .needed member] fun g => query (g.value? "class") (g.text member)

def commands : List Verb :=
  [.onIdentifier "convert" .convert,
   .onIdentifier "class-name" .className,
   .onIdentifier "dialect" .dialect,
   .onProgram "info" [] fun _ => .info,
   .onProgram "classes" [] fun _ => .classes,
   .onProgram "manifest" [] fun _ => .manifest,
   .onClass "class-source" .classSource,
   .onMember "method-source" "method" .methodSource,
   .onClass "superclass" .superclass,
   .onClass "interfaces" (.classList .interfaces),
   .onClass "methods" (.classList .methods),
   .onClass "fields" (.classList .fields),
   .onClass "class-callers" (.classList .callers),
   .onMember "method-callers" "method" (.memberList .methodCallers),
   .onMember "method-overrides" "method" (.memberList .methodOverrides),
   .onMember "field-callers" "field" (.memberList .fieldCallers),
   .onProgram "search" [.needed "text"] fun g => .search (g.text "text"),
   .onProgram "aidl-classes" [] fun _ => .aidlClasses,
   .onClass "aidl-methods" .aidlMethods,
   .onProgram "aidl-impl" [.needed "class", .flag "force"] fun g =>
     .aidlImplementation (g.text "class") (g.has "force"),
   .onTool "providers" .providers,
   .onTool "config" .config]

def readCommand (name : String) (words : List String) : Except Refusal Request :=
  match commands.find? fun c => c.name = name with
  | some c => do return c.request (← c.form.read words)
  | none => .error .unusable

def readWords (logGiven logPending : Bool) : List String → Except Refusal Request
  | [] => .error .unusable
  | word :: rest =>
    if logPending then
      if looksLikeSetting word then .error .unusable else readWords true false rest
    else if !looksLikeSetting word then
      if word = "help" then
        let named (name : String) : Bool :=
          name = "help" || commands.any fun c => c.name = name
        if rest.isEmpty || (rest.length = 1 && rest.all named) then .error .help
        else .error .unusable
      else readCommand word rest
    else if asksHelp word then .error .help
    else if word = "--version" || ['-', 'V'].isPrefixOf word.toList then .error .version
    else
      match longName? word with
      | some ("log-level", value?) =>
        if logGiven then .error .unusable else readWords true value?.isNone rest
      | _ => .error .unusable

def Request.ofWords (words : List String) : Except Refusal Request :=
  readWords false false words

end ClassAtlas.Command
