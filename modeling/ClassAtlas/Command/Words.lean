/-! The words of a command line. A form lays down which settings a command has and
whether it takes an argument; words are read from left to right against it, and the
first one that does not fit decides. A setting with a value takes it from behind
an equals sign or from the next word, which must not look like a setting itself.
Behind two lone hyphens every word is an argument. -/
namespace ClassAtlas.Command

structure Setting where
  name : String
  takesValue : Bool
  isRequired : Bool

/-- A setting that is either there or not. -/
def Setting.flag (name : String) : Setting := ⟨name, false, false⟩

def Setting.valued (name : String) : Setting := ⟨name, true, false⟩

def Setting.needed (name : String) : Setting := ⟨name, true, true⟩

structure Form where
  /-- Whether the command takes an argument, which then has to be there. -/
  takesArgument : Bool
  settings : List Setting

/-- Why a command is not carried out. -/
inductive Refusal where
  | unusable
  | help
  | version
  deriving DecidableEq

/-- What the words of a command line say. A flag has an empty value. -/
structure Given where
  argument : Option String := none
  values : List (String × String) := []

namespace Given

def value? (g : Given) (name : String) : Option String :=
  g.values.lookup name

def has (g : Given) (name : String) : Bool :=
  (g.value? name).isSome

/-- Add a setting. None may be given twice. -/
def add (g : Given) (name value : String) : Except Refusal Given :=
  if g.has name then .error .unusable else .ok { g with values := (name, value) :: g.values }

end Given

/-- A word that begins with a hyphen, and is not one. -/
def looksLikeSetting (word : String) : Bool :=
  word.toList.head? = some '-' && word != "-"

/-- The name of a setting that is written with two hyphens, and the value behind an
equals sign. -/
def longName? (word : String) : Option (String × Option String) :=
  match word.toList with
  | '-' :: '-' :: text =>
    let name := text.takeWhile (· != '=')
    let value :=
      match text.dropWhile (· != '=') with
      | _ :: value => some (String.ofList value)
      | [] => none
    some (String.ofList name, value)
  | _ => none

def asksHelp (word : String) : Bool :=
  word = "--help" || ['-', 'h'].isPrefixOf word.toList

/-- Read words against a form. `pending` is the setting that waits for its value, and
`literal` says that two lone hyphens were passed. -/
def Form.scan (form : Form) (given : Given) (pending : Option String) (literal : Bool) :
    List String → Except Refusal Given
  | [] => if pending.isSome then .error .unusable else .ok given
  | word :: rest =>
    match pending with
    | some name => do
      if looksLikeSetting word then throw .unusable
      form.scan (← given.add name word) none literal rest
    | none =>
      if literal || !looksLikeSetting word then
        if form.takesArgument && given.argument.isNone then
          form.scan { given with argument := some word } none literal rest
        else .error .unusable
      else if word = "--" then form.scan given none true rest
      else if asksHelp word then .error .help
      else
        match longName? word with
        | none => .error .unusable
        | some (name, value?) =>
          match form.settings.find? fun s => s.name = name, value? with
          | none, _ => .error .unusable
          | some s, none =>
            if s.takesValue then form.scan given (some name) literal rest
            else do form.scan (← given.add name "") none literal rest
          | some s, some value =>
            if s.takesValue then do form.scan (← given.add name value) none literal rest
            else .error .unusable

/-- Read all words against a form. Whatever is required has to be among them. -/
def Form.read (form : Form) (words : List String) : Except Refusal Given := do
  let given ← form.scan {} none false words
  if form.takesArgument && given.argument.isNone then throw .unusable
  if form.settings.any fun s => s.isRequired && !given.has s.name then throw .unusable
  return given

end ClassAtlas.Command
