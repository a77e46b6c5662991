import ClassAtlas.Text.Cut

/-! The service configuration, read from environment variables. An unset
variable leaves its default, and so does a blank host or provider; numbers are
decimal and must fit their field. -/
namespace ClassAtlas

structure ServiceConfig where
  host : String
  port : UInt16
  /-- How many programs may stay loaded, at least one. -/
  maxInstances : UInt64
  /-- The provider used where none is named. -/
  provider : String
  deriving DecidableEq

/-- Why a text is not a number of the wanted range. -/
inductive NumberFault where
  | empty
  | invalidDigit
  | tooLarge
  | belowOne
  deriving DecidableEq

def NumberFault.describe : NumberFault → String
  | .empty => "cannot parse integer from empty string"
  | .invalidDigit => "invalid digit found in string"
  | .tooLarge => "number too large to fit in target type"
  | .belowOne => "must be at least 1"

structure ConfigFault where
  setting : String
  value : String
  fault : NumberFault
  deriving DecidableEq

def ConfigFault.message (f : ConfigFault) : String :=
  s!"Invalid value for {f.setting}: '{f.value}' ({f.fault.describe})"

/-- Continue a decimal number from the left. The first character that is no digit,
or that takes the value over the limit, decides. -/
def readDigits (limit value : Nat) : List Char → Except NumberFault Nat
  | [] => .ok value
  | c :: rest =>
    if c.isDigit then
      let next := 10 * value + (c.toNat - '0'.toNat)
      if limit < next then .error .tooLarge else readDigits limit next rest
    else .error .invalidDigit

/-- A decimal number of at most `limit`, with an optional plus sign. -/
def readNatural (limit : Nat) (text : List Char) : Except NumberFault Nat :=
  match text with
  | [] => .error .empty
  | ['+'] => .error .invalidDigit
  | '+' :: digits => readDigits limit 0 digits
  | digits => readDigits limit 0 digits

namespace ServiceConfig

def hostSetting : String := "DEXLENS_HOST"
def portSetting : String := "DEXLENS_PORT"
def maxInstancesSetting : String := "DEXLENS_MAX_INSTANCES"
def providerSetting : String := "DEXLENS_PROVIDER"

def default : ServiceConfig := ⟨"localhost", 8651, 4, "snapshot"⟩

/-- The trimmed value of a variable, or the default if it is unset or blank. -/
def textOr (value : Option String) (default : String) : String :=
  match value with
  | some text => if Text.trim text = "" then default else Text.trim text
  | none => default

/-- The number that a variable holds, or the default if it is unset. -/
def numberOr (setting : String) (value : Option String) (limit least default : Nat) :
    Except ConfigFault Nat :=
  match value with
  | none => .ok default
  | some text =>
    match readNatural limit (Text.trim text).toList with
    | .error fault => .error ⟨setting, text, fault⟩
    | .ok n => if n < least then .error ⟨setting, text, .belowOne⟩ else .ok n

/-- Read the configuration from an environment. A bad port is reported before a
bad instance limit. -/
def read (environment : String → Option String) : Except ConfigFault ServiceConfig := do
  let port ← numberOr portSetting (environment portSetting) 65535 0 default.port.toNat
  let limit ← numberOr maxInstancesSetting (environment maxInstancesSetting)
    18446744073709551615 1 default.maxInstances.toNat
  return ⟨textOr (environment hostSetting) default.host, port.toUInt16, limit.toUInt64,
    textOr (environment providerSetting) default.provider⟩

/-- The host and the port, for binding or display. -/
def address (c : ServiceConfig) : String :=
  s!"{c.host}:{c.port}"

end ServiceConfig

end ClassAtlas
