import DocQuery.Json.Reader
import DocQuery.Log.Logger

/-! The settings of an engine, and reading them from JSON. -/
namespace DocQuery

structure Config where
  logThreshold : Severity := .warn
  regexSizeLimit : Nat := 1048576
  collectMetrics : Bool := false
  deriving DecidableEq

inductive ConfigError where
  | unreadable
  | malformed
  | zeroSizeLimit
  deriving DecidableEq

def ConfigError.message : ConfigError → String
  | unreadable => "failed to read config"
  | malformed => "invalid config JSON"
  | zeroSizeLimit => "invalid config: regex_size_limit must be > 0"

inductive Setting where
  | logThreshold
  | regexSizeLimit
  | collectMetrics
  deriving DecidableEq

namespace Setting

/-- The settings in the order of a list of them. -/
def all : List Setting := [logThreshold, regexSizeLimit, collectMetrics]

def name : Setting → String
  | logThreshold => "log_threshold"
  | regexSizeLimit => "regex_size_limit"
  | collectMetrics => "collect_metrics"

def ofName? (name : String) : Option Setting := all.find? (·.name = name)

end Setting

/-- A severity is written by its name, or as an object with the name as its key and null in it. -/
def Json.toSeverity? : Json → Option Severity
  | .string (some name) => Severity.ofName? name
  | .object [(some name, .null)] => Severity.ofName? name
  | _ => none

/-- A whole number that fits 64 bits, written without fraction and exponent. -/
def Json.toSize? : Json → Option Nat
  | .number n =>
    match n.toInt? with
    | some i => if 0 ≤ i ∧ i < 0x10000000000000000 then some i.toNat else none
    | none => none
  | _ => none

def Json.toBoolean? : Json → Option Bool
  | .boolean b => some b
  | _ => none

namespace Config

def set? (config : Config) (json : Json) : Setting → Option Config
  | .logThreshold => json.toSeverity?.map fun s => { config with logThreshold := s }
  | .regexSizeLimit => json.toSize?.map fun n => { config with regexSizeLimit := n }
  | .collectMetrics => json.toBoolean?.map fun b => { config with collectMetrics := b }

/-- Reads the members of an object. Unknown keys are passed over, and no setting may come twice. -/
def ofMembers? (seen : List Setting) (config : Config) : List (JsonText × Json) → Option Config
  | [] => some config
  | (none, _) :: _ => none
  | (some key, value) :: rest =>
    match Setting.ofName? key with
    | none => ofMembers? seen config rest
    | some s =>
      if s ∈ seen then none
      else do ofMembers? (s :: seen) (← config.set? value s) rest

/-- Reads settings in order; those at the end may be missing. -/
def ofItems? (config : Config) : List Setting → List Json → Option Config
  | _, [] => some config
  | [], _ :: _ => none
  | s :: settings, item :: items => do ofItems? (← config.set? item s) settings items

def ofJson? : Json → Option Config
  | .object members => ofMembers? [] {} members
  | .array items => ofItems? {} Setting.all items
  | _ => none

def validate (config : Config) : Except ConfigError Config :=
  if config.regexSizeLimit = 0 then .error .zeroSizeLimit else .ok config

def parse (text : String) : Except ConfigError Config :=
  match (Json.parse? text).bind ofJson? with
  | some config => config.validate
  | none => .error .malformed

def logger (config : Config) : Logger := ⟨config.logThreshold⟩

/-- Reads the content of a file, if there is one, and reports that it has been loaded. -/
def load (path : String) (content : Option ByteArray) :
    Except ConfigError (Config × List LogLine) := do
  match content.bind String.fromUTF8? with
  | none => .error .unreadable
  | some text =>
    let config ← parse text
    return (config, config.logger.report .configLoaded
      [("path", path), ("log_threshold", config.logThreshold.name)])

end Config
end DocQuery
