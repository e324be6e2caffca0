import RuleRouting.Service.Envelope
import RuleRouting.Http.Message
import RuleRouting.Route.Router

/-!
# The dispatching service

Each request is turned into a route request and dispatched on the current router:

* the extension is split off the last path segment, at its last `.`, when both sides are
  non-empty, and lowercased (ASCII); the path keeps everything before that `.`;
* the query is the target's query read as form data;
* the request is https when `X-Forwarded-Proto` says `https` (in any case), or, without that
  header, when the target's scheme is `https`;
* the host comes from the `Host` header read as an authority (no host when the header is not
  visible text or not an authority), or without that header from the target's authority;
  the port is dropped and the host lowercased (ASCII);
* with a time budget, the deadline is that many milliseconds after the request arrived: it has
  passed at a check once the milliseconds elapsed, as that check reads them, reach the budget.
  A zero budget has passed at every check.

A resolved route or a non-match (with its positional decomposition) is answered with the
JSON envelope; a redirect with its status and `Location` (or a 500 when either cannot be
sent); a handled request with its text; a passed deadline with a 503.
-/

namespace RuleRouting

open Http

/-- The component that reports service events. -/
def serviceTarget : String := "dispatcher::service"

/-- An event of the service. -/
def serviceEvent (level : Level) (message : String) (fields : List (String × FieldValue)) :
    LogEvent :=
  { level, target := serviceTarget, message, fields }

/-- Splits the extension off the last segment of a path. -/
def splitExtension (path : String) : String × Option String :=
  let last := (Text.split path '/').getLastD ""
  match Text.splitOnceRight last '.' with
  | some (stem, ext) =>
    if !stem.isEmpty && !ext.isEmpty then
      (String.ofList (path.toList.take (path.length - ext.length - 1)),
       some (Text.asciiLowercase ext))
    else (path, none)
  | none => (path, none)

/-- The host a request names, without port, lowercased. -/
def requestHost (r : Request) : Option String :=
  match r.header? "host" with
  | some v =>
    if !isVisibleText v then none
    else (parseAuthority v).map fun a => Text.asciiLowercase (authorityHost a)
  | none => r.uri.authority.map fun a => Text.asciiLowercase (authorityHost a)

/-- Whether a request came over https. -/
def isHttps (r : Request) : Bool :=
  match r.header? "x-forwarded-proto" with
  | some v => Text.eqIgnoreAsciiCase v "https"
  | none => r.uri.scheme = some "https"

/-- The deadline `timeoutMs` milliseconds after a request arrived, checked against the
milliseconds `elapsed n` read at the `n`-th check. -/
def budgetClock (timeoutMs : Nat) (elapsed : Nat → Nat) : Clock :=
  fun n => timeoutMs ≤ elapsed n

/-- The route request of an HTTP request whose deadline checks read the milliseconds
`elapsed` since it arrived. -/
def routeRequest (r : Request) (timeoutMs : Option Nat) (elapsed : Nat → Nat) : RouteRequest :=
  let (path, extension) := splitExtension r.uri.path
  { method := r.method, host := requestHost r, path,
    query := (r.uri.query.map Query.parse).getD OrderedMap.empty,
    https := isHttps r, extension,
    deadline := timeoutMs.map fun t => budgetClock t elapsed }

/-- The response to a resolved route. -/
def routeResponse (r : ResolvedRoute) : Response :=
  { status := 200, contentType := some "application/json", body := envelope r }

/-- The response to a redirect, or a 500 with the event explaining it. -/
def redirectResponse (rd : Redirect) : Response × List LogEvent :=
  let failure (why : String) : Response × List LogEvent :=
    (errorResponse 500, [serviceEvent .error "Invalid redirect"
      [("location", .shown rd.location), ("error", .shown why)]])
  if !isStatusCode rd.status then failure "invalid status code"
  else if !isHeaderValue rd.location then failure "failed to parse header value"
  else ({ status := rd.status, location := some rd.location }, [])

/-- Answers a request the server accepted, with the events reported, when its deadline checks
read the milliseconds `elapsed`. -/
def respond (router : Router) (timeoutMs : Option Nat) (elapsed : Nat → Nat) (r : Request) :
    Response × List LogEvent :=
  let req := routeRequest r timeoutMs elapsed
  let (result, events) := router.dispatchTraced req
  match result with
  | .ok (.resolved resolved) => (routeResponse resolved, events)
  | .ok (.redirect rd) =>
    let (resp, more) := redirectResponse rd
    (resp, events ++ more)
  | .ok (.handled body) =>
    ({ status := 200, contentType := some "text/plain; charset=utf-8", body }, events)
  | .ok (.noMatch bound query) =>
    let path := router.normalize req.path
    (routeResponse (decompose path bound query),
     events ++ [serviceEvent .warn "No rule matched, using default decomposition"
       [("method", .shown req.method.name), ("path", .shown path)]])
  | .error _ =>
    (errorResponse 503, events ++ [serviceEvent .warn "Dispatch deadline exceeded"
      [("path", .shown req.path)]])

/-- Serves one request as received over a connection: a malformed request gets a 400. -/
def exchange (router : Router) (timeoutMs : Option Nat) (raw : RawRequest) : Exchange :=
  match raw.accept with
  | none => ⟨badRequest, [], true⟩
  | some r =>
    let (resp, events) := respond router timeoutMs raw.elapsed r
    ⟨finalize r.method resp, events, !isSendable resp.status⟩

/-- Serves one request as received: the response sent and the events reported. -/
def serve (router : Router) (timeoutMs : Option Nat) (raw : RawRequest) :
    Response × List LogEvent :=
  let x := exchange router timeoutMs raw
  (x.response, x.events)

end RuleRouting
