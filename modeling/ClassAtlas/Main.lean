import ClassAtlas.Command.Outcome
import Std.Time.Format

/-! The command line tool. What a request may look at is gathered first; then the
request is carried out, and its outcome printed. -/
namespace ClassAtlas.Tool

open Command

def obstacle : IO.Error → Obstacle
  | .noFileOrDirectory .. => .missing
  | .inappropriateType .. => .notFolder
  | why => .other (toString why)

def outcomeOf {α : Type} (action : IO α) : IO (Except Obstacle α) := do
  try return .ok (← action)
  catch why => return .error (obstacle why)

def lookAt (path : String) : IO (Except Obstacle Entry) :=
  outcomeOf do
    let real ← IO.FS.realPath path
    if ← real.isDir then
      return .folder (← outcomeOf do return (← real.readDir).toList.map fun e => e.fileName)
    return .file (← outcomeOf do return (← IO.FS.readBinFile real).toList)

/-- The shortest path to the same place, if there is anything. -/
def canonical? (path : String) : IO (Option String) := do
  try
    let real ← IO.FS.realPath path
    return if ← real.pathExists then some real.toString else none
  catch _ => return none

def inputOf? : Request → Option String
  | .ask options _ => some options.input
  | _ => none

/-- Look at a path, and into it if it is a folder. -/
def explore (path : String) : IO (List (String × Except Obstacle Entry)) := do
  let found ← lookAt path
  match found with
  | .ok (.folder (.ok names)) =>
    let inside ← names.mapM fun name => do
      let path := Path.join path name
      return (path, ← lookAt path)
    return (path, found) :: inside
  | _ => return [(path, found)]

def settings : List String :=
  [ServiceConfig.hostSetting, ServiceConfig.portSetting, ServiceConfig.maxInstancesSetting,
    ServiceConfig.providerSetting]

def now : IO String := do
  let moment := (Std.Time.DateTime.ofTimestampWithZone (← Std.Time.Timestamp.now) .UTC).date.get
  return s!"{moment.date}T{moment.time}+00:00"

def gather (words : List String) : IO Surroundings := do
  let folder ← IO.currentDir
  let environment ← settings.mapM fun name => do return (name, ← IO.getEnv name)
  let nowhere : World := ⟨fun _ => .error .missing, ← now⟩
  let blank : Surroundings :=
    ⟨nowhere, folder.toString, fun _ => none, fun name => (environment.lookup name).join⟩
  match (Request.ofWords words).toOption.bind inputOf? with
  | none => return blank
  | some input =>
    let written := Path.join blank.folder input
    let real ← canonical? written
    let s := { blank with canonical? := fun path => if path = written then real else none }
    let entries ← explore (inputPath s input)
    let entry (path : String) : Except Obstacle Entry :=
      (entries.lookup path).getD (.error .missing)
    return { s with world := { nowhere with entry := entry } }

end ClassAtlas.Tool

def main (words : List String) : IO UInt32 := do
  let outcome := ClassAtlas.Command.run (← ClassAtlas.Tool.gather words) words
  IO.print outcome.output
  IO.eprint outcome.errors
  return outcome.status.toUInt32
