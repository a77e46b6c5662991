import ClassAtlas.Command.Answer

/-! What a run of the command line leaves behind: an exit status and the texts on
both outputs. An answer has the status 0, a complaint 1, and words that make no
request 2. -/
namespace ClassAtlas.Command

structure Outcome where
  status : Nat
  output : String := ""
  errors : String := ""
  deriving DecidableEq

def toolName : String := "dexlens"

def version : String := "0.1.0"

/-- A text with a margin in front of its first line and another in front of the
others. -/
def indent (first others : String) (text : String) : String :=
  match (Text.pieces '\n' text.toList).map String.ofList with
  | [] => first
  | head :: rest => first ++ head ++ String.join (rest.map fun l => "\n" ++ others ++ l)

def aligned (n : Nat) : String :=
  let digits := toString n
  "".pushn ' ' (5 - digits.length) ++ digits

/-- The causes under a complaint. Several of them are numbered. -/
def writeCauses : List String → String
  | [] => ""
  | [cause] => "\nCaused by:\n" ++ line (indent "    " "    " cause)
  | causes =>
    "\nCaused by:\n" ++
      lines (causes.zipIdx.map fun (cause, n) => indent (aligned n ++ ": ") "       " cause)

def Complaint.report (c : Complaint) : String :=
  line ("Error: " ++ c.context) ++ writeCauses c.causes

def usage : String :=
  lines (s!"Usage: {toolName} [--log-level <LOG_LEVEL>] <COMMAND>" :: "" :: "Commands:" ::
    commands.map fun c => "  " ++ c.name)

def refuse : Refusal → Outcome
  | .unusable => { status := 2, errors := usage }
  | .help => { status := 0, output := usage }
  | .version => { status := 0, output := line (toolName ++ " " ++ version) }

def run (s : Surroundings) (words : List String) : Outcome :=
  match Request.ofWords words with
  | .error refusal => refuse refusal
  | .ok request =>
    match answer s request with
    | .ok text => { status := 0, output := text }
    | .error complaint => { status := 1, errors := complaint.report }

end ClassAtlas.Command
