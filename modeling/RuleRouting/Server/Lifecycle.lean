import RuleRouting.Config.Build
import RuleRouting.Server.Admin
import RuleRouting.Service.Dispatch

/-!
# Starting and reloading the dispatcher

Starting builds the router from the configuration (without validating it), reports the number
of rules, and binds the dispatcher listener and then the admin listener; two listeners on one
port cannot both bind. A reload reads a fresh configuration, which must validate and build;
then its rules replace the current ones, while the listeners and the time budget stay as they
were started. A failed reload keeps the current rules.
-/

namespace RuleRouting

open Http

/-- Why the dispatcher stopped, or why a reload failed. -/
inductive ServeError where
  | io (message : String)
  | routing (e : RoutingError)
  | validation (e : ValidationError)
  | configLoad (message : String)

/-- The text of a serving error. -/
def ServeError.message : ServeError → String
  | .io m => "IO error: " ++ m
  | .routing e => "Invalid routing rule: " ++ e.message
  | .validation e => "Invalid config: " ++ e.message
  | .configLoad m => "Failed to load config: " ++ m

/-- The listener a request arrives on. -/
inductive Endpoint where
  | dispatcher
  | admin
  deriving DecidableEq

/-- A running dispatcher: the rules in use and the time budget of each dispatch. -/
structure Server where
  router : Router
  timeoutMs : Option Nat

/-- An event of the dispatcher's lifecycle. -/
def lifecycleEvent (level : Level) (message : String) (fields : List (String × FieldValue)) :
    LogEvent :=
  { level, target := "dispatcher", message, fields }

/-- The event reporting a bound listener. -/
def listeningEvent (l : Listener) : LogEvent :=
  { level := .info, target := "shared::http", message := "Listening",
    fields := [("host", .quoted l.host), ("port", .shown (toString l.port))] }

/-- The text of the error a second bind of one port gives. -/
def addressInUse : String := "Address already in use (os error 98)"

/-- Starts the dispatcher: the server, or the error it stops with, and the events so far. -/
def Server.start (c : DispatcherConfig) : Except ServeError Server × List LogEvent :=
  match c.buildRouter with
  | .error e => (.error (.routing e), [])
  | .ok (router, built) =>
    let loaded := lifecycleEvent .info "Routing rules loaded"
      [("rules", .shown (toString c.rules.length))]
    let bound := [built, loaded, listeningEvent c.listener]
    if c.listener.port = c.adminListener.port then (.error (.io addressInUse), bound)
    else (.ok { router, timeoutMs := c.dispatchTimeoutMs }, bound ++ [listeningEvent c.adminListener])

/-- The router a fresh configuration gives, with the event of building it. -/
def reloadedRouter (next : Except ServeError DispatcherConfig) :
    Except ServeError (Router × LogEvent) := do
  let c ← next
  match c.validate with
  | .error e => throw (.validation e)
  | .ok () => pure ()
  match c.buildRouter with
  | .error e => throw (.routing e)
  | .ok built => pure built

/-- Reloads the rules from a fresh configuration (or the error reading it). -/
def Server.reload (s : Server) (next : Except ServeError DispatcherConfig) :
    Server × List LogEvent :=
  match reloadedRouter next with
  | .ok (router, built) =>
    ({ s with router }, [built, lifecycleEvent .info "Routing rules reloaded" []])
  | .error e =>
    (s, [lifecycleEvent .error "Reload failed, keeping current routing rules"
      [("error", .shown e.message)]])

/-- The event of a listener's connection that ends with an error. The peer's address and the
error's text, which the event also carries, are not modelled. -/
def connectionFailedEvent : LogEvent :=
  { level := .debug, target := "shared::http", message := "Connection closed with error",
    fields := [] }

/-- Answers a request arriving on one of the listeners; a connection that ends with an error
reports it after the request's own events. -/
def Server.handle (s : Server) (endpoint : Endpoint) (raw : RawRequest) :
    Response × List LogEvent :=
  let x := match endpoint with
    | .dispatcher => exchange s.router s.timeoutMs raw
    | .admin => adminExchange raw
  (x.response, x.events ++ if x.failed then [connectionFailedEvent] else [])

/-- What reaches a running dispatcher: a hangup signal, answered by a reload from the
configuration the reload function then gives (or the error it gives instead), or a request on
one of the listeners. -/
inductive ServerInput where
  | hangup (next : Except ServeError DispatcherConfig)
  | request (endpoint : Endpoint) (raw : RawRequest)

/-- Serves one input: the server after it, the response when it is a request, and the events
reported. -/
def Server.step (s : Server) : ServerInput → Server × Option Response × List LogEvent
  | .hangup next =>
    let (s', events) := s.reload next
    (s', none, events)
  | .request endpoint raw =>
    let (response, events) := s.handle endpoint raw
    (s, some response, events)

/-- Serves inputs in the order they arrive: the server at the end, what each input was
answered with (a response to each request), and the events reported. -/
def Server.run (s : Server) : List ServerInput → Server × List (Option Response) × List LogEvent
  | [] => (s, [], [])
  | input :: rest =>
    let (s', answer, events) := s.step input
    let (s'', answers, events') := s'.run rest
    (s'', answer :: answers, events ++ events')

end RuleRouting
