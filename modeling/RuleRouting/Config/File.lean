import RuleRouting.Config.Read

/-!
# The configuration file

The program's configuration file holds an optional `metrics` section (a statsd host, port and
a name stem that defaults to `waypoint`) and an optional `dispatcher` section. The dispatcher
section is read as a field of the file; every other entry is gathered as a typed value, and
the metrics section is read from those. Asking for the dispatcher section fails when it is
absent or when it does not validate.
-/

namespace RuleRouting

open Yaml

/-- Where metrics are sent. -/
structure MetricsConfig where
  statsdHost : String
  statsdPort : Nat
  /-- The text every metric name starts with. -/
  stem : String := "waypoint"

/-- The configuration file. -/
structure FileConfig where
  metrics : Option MetricsConfig
  dispatcher : Option DispatcherConfig

/-- Why the configuration could not be had. -/
inductive ConfigError where
  /-- The file could not be read; the reason as the system gives it. -/
  | load (reason : String)
  /-- The file is not a valid configuration. -/
  | parse (reason : String)
  | missingSection (name : String)
  | invalid (e : ValidationError)

/-- The text of a configuration error. -/
def ConfigError.message : ConfigError → String
  | .load r => "could not load config from file: " ++ r
  | .parse r => "could not parse config: " ++ r
  | .missingSection n => "config has no " ++ n ++ " section"
  | .invalid e => "invalid config: " ++ e.message

/-- The kind of a configuration error, as a name. -/
def ConfigError.kind : ConfigError → String
  | .load _ => "LoadError"
  | .parse _ => "ParseError"
  | .missingSection _ => "MissingSection"
  | .invalid _ => "Invalid"

/-- Reads the metrics section (typed). -/
def readMetrics (n : Node) : Decoded MetricsConfig := do
  let fs ← recordFields ["statsd_host", "statsd_port", "prefix"] true n
  return { statsdHost := ← required fs "statsd_host" (readText .typed),
           statsdPort := ← required fs "statsd_port" (readNat Text.maxU16),
           stem := ← withDefault fs "prefix" "waypoint" (readText .typed) }

/-- Reads the configuration file. -/
def readFile (n : Node) : Decoded FileConfig := do
  let fs ← mapEntries n
  let dispatcher ← optionalField fs "dispatcher" readDispatcher
  let metrics ← optionalField (← leftover fs ["dispatcher"]) "metrics" readMetrics
  return { metrics, dispatcher }

/-- Reads the configuration file from YAML text. -/
def FileConfig.parse (text : String) : Except ConfigError FileConfig :=
  match documentOf text >>= readFile with
  | .ok c => .ok c
  | .error e => .error (.parse e)

/-- The dispatcher section, validated. -/
def FileConfig.dispatcherSection (c : FileConfig) : Except ConfigError DispatcherConfig :=
  match c.dispatcher with
  | none => .error (.missingSection "dispatcher")
  | some d =>
    match d.validate with
    | .ok () => .ok d
    | .error e => .error (.invalid e)

end RuleRouting
