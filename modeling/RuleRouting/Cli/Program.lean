import RuleRouting.Cli.Arguments
import RuleRouting.Cli.Filter
import RuleRouting.Config.File
import RuleRouting.Server.Lifecycle

/-!
# The program

`check` reads the configuration file, takes its validated dispatcher section and builds the
router, then reports that the configuration is valid. `dispatcher` reads the file, enables
the metrics it configures, takes the dispatcher section, reports that it starts, and starts
serving; it serves until stopped, so it ends only with an error. Every error is reported as
the event `Exiting` and ends the program with status 1.

Events are printed one per line on standard output when the log filter shows them; help and
errors of the command line are printed as they are.
-/

namespace RuleRouting.Cli

/-- The files the program can read: the text of each path, `none` when there is no such
file. -/
abbrev Files := String → Option String

/-- How a run ended and what it printed. -/
structure Outcome where
  /-- The exit status; `none` while the program keeps serving. -/
  status : Option Nat
  stdout : List String
  stderr : List String
  deriving Repr

/-- An event of the program itself. -/
def programEvent (level : Level) (message : String) (fields : List (String × FieldValue)) :
    LogEvent :=
  { level, target := "waypoint", message, fields }

/-- Why a run stopped. -/
inductive Failure where
  | config (e : ConfigError)
  | serve (e : ServeError)
  | metrics (reason : String)

/-- The text of a failure. -/
def Failure.message : Failure → String
  | .config e => e.message
  | .serve e => e.message
  | .metrics reason => "could not set up metrics: " ++ reason

/-- Why the metrics section cannot be used, if it cannot: the statsd host must have a
character other than white space, and the port must not be 0. -/
def metricsProblem? (m : MetricsConfig) : Option String :=
  if m.statsdHost.toList.all Text.isBlank then some "Empty hostname is not allowed"
  else if m.statsdPort = 0 then some "Port number must be nonzero"
  else none

/-- Reads the configuration file. -/
def loadConfig (files : Files) (path : String) : Except ConfigError FileConfig :=
  match files path with
  | none => .error (.load "No such file or directory (os error 2)")
  | some text => FileConfig.parse text

/-- The events of `check`, and its failure if it fails. -/
def runCheck (files : Files) (path : String) : List LogEvent × Option Failure :=
  match loadConfig files path >>= FileConfig.dispatcherSection with
  | .error e => ([], some (.config e))
  | .ok c =>
    match c.buildRouter with
    | .error e => ([], some (.serve (.routing e)))
    | .ok (_, built) =>
      ([built, programEvent .info "Config is valid"
        [("config", .shown path), ("rules", .shown (toString c.rules.length)),
         ("domains", .shown (toString c.domains.length))]], none)

/-- The events of `dispatcher`, and its failure; no failure means it keeps serving. -/
def runDispatcher (files : Files) (path : String) : List LogEvent × Option Failure :=
  match loadConfig files path with
  | .error e => ([], some (.config e))
  | .ok fc =>
    let metrics := match fc.metrics with
      | some m => [programEvent .info "Statsd metrics enabled"
          [("host", .shown m.statsdHost), ("port", .shown (toString m.statsdPort))]]
      | none => []
    match fc.metrics.bind metricsProblem? with
    | some reason => ([], some (.metrics reason))
    | none =>
    match fc.dispatcherSection with
    | .error e => (metrics, some (.config e))
    | .ok c =>
      let starting := programEvent .info "Starting dispatcher"
        [("config", .shown path),
         ("listener", .shown (c.listener.host ++ ":" ++ toString c.listener.port))]
      match Server.start c with
      | (.error e, events) => (metrics ++ [starting] ++ events, some (.serve e))
      | (.ok _, events) => (metrics ++ [starting] ++ events, none)

/-- The lines of a text; a final line break ends the last line. -/
def textLines (text : String) : List String :=
  let parts := text.splitOn "\n"
  if text.endsWith "\n" then parts.dropLast else parts

/-- Runs the program on its command line (the words after its name), with the files it can
read and the log filter setting, if any. -/
def run (files : Files) (logSetting : Option String) (args : List String) : Outcome :=
  match readArgs args with
  | .help text => { status := some 0, stdout := textLines text, stderr := [] }
  | .refuse text => { status := some 2, stdout := [], stderr := textLines text }
  | .run inv =>
    let (events, failure) := match inv.command with
      | .check => runCheck files inv.configPath
      | .dispatcher => runDispatcher files inv.configPath
    let events := match failure with
      | some f => events ++ [programEvent .error "Exiting" [("error", .shown f.message)]]
      | none => events
    let filter := LogFilter.ofSetting logSetting
    let lines := (events.filter filter.shows).flatMap fun e => textLines e.line
    let status := match failure, inv.command with
      | some _, _ => some 1
      | none, .check => some 0
      | none, .dispatcher => none
    { status, stdout := lines, stderr := [] }

end RuleRouting.Cli
