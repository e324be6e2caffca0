import RuleRouting.Route.Resolve
import RuleRouting.Route.Domain
import RuleRouting.Log

/-!
# The router

A `RouterBuilder` collects the URL map, the domain rules and the path rules; `build` freezes
them into a `Router`. Dispatching a request goes through three stages:

1. the domain rule for the request's host, which may bind a module, add parameters, or hand
   the request to a handler;
2. the URL map, an exact lookup of the normalized path;
3. the rule walk over the candidates for the request's method. Before each candidate (and
   each child of a group) the deadline is checked; a candidate whose options reject the
   request is skipped; the first rule whose pattern matches and whose handler does not pass
   gives the outcome.

When nothing matches, the outcome says so, with the bound module and the query, so that the
caller can fall back to positional decomposition.

Dispatching also reports events: the domain rule and URL-map entry used, and each rule whose
pattern matched.
-/

namespace RuleRouting

/-- Replaces the separator by `/` and trims surrounding `/`; an empty path becomes `/`. -/
def normalizePath (path : String) (separator : Char) : String :=
  let path := if separator = '/' then path else Text.replaceChar path separator '/'
  match Text.trimChar path '/' with
  | "" => "/"
  | trimmed => trimmed

/-- The rules being collected before a router is built. -/
structure RouterBuilder where
  separator : Char := '/'
  urlMap : OrderedMap String := OrderedMap.empty
  domains : DomainTable := {}
  rules : RuleTable := {}

/-- A built router. -/
structure Router where
  separator : Char
  urlMap : OrderedMap String
  domains : DomainTable
  rules : RuleTable

/-- The component that reports routing events. -/
def routerTarget : String := "routing::router"

/-- The text between `[` and `]` of a group pattern. -/
def bracketed (pattern : String) : Option String :=
  match pattern.toList with
  | '[' :: rest =>
    match rest.reverse with
    | ']' :: inner => some (String.ofList inner.reverse)
    | _ => none
  | _ => none

/-- What a registration writes: its method filters, its key and its entry. A pattern
`[scope]` with a group of children makes a group keyed by `scope`. -/
def compileRegistration (pattern : String) (spec : RouteSpec) (methods : String)
    (option : RuleOption) : Except RoutingError (List MethodFilter × String × Entry) := do
  let filters ← match MethodFilter.parseList methods with
    | some fs => pure fs
    | none => throw (.invalidMethod methods)
  let (key, entry) ← match bracketed pattern, spec with
    | some scope, .group children => do
      let g ← RuleGroup.compile scope children option
      pure (scope, Entry.group g)
    | some scope, _ => throw (.expectedGroup scope)
    | none, spec => do
      let r ← Rule.compile pattern spec option
      pure (pattern, Entry.rule r)
  return (filters, key, entry)

namespace RouterBuilder

/-- Sets the separator used by incoming paths. -/
def withSeparator (b : RouterBuilder) (c : Char) : RouterBuilder :=
  { b with separator := c }

/-- Maps a full path to an address; the path is normalized with the current separator. -/
def map (b : RouterBuilder) (path address : String) : RouterBuilder :=
  { b with urlMap := b.urlMap.insert (normalizePath path b.separator) address }

/-- Sets the domain rule for a pattern. -/
def domain (b : RouterBuilder) (pattern : String) (target : DomainTarget) : RouterBuilder :=
  { b with domains := b.domains.insert pattern target }

/-- Registers a rule under each method of the filter list `methods`. A pattern `[scope]`
with a group of children registers a group, keyed by `scope`. A failed registration changes
nothing. -/
def register (b : RouterBuilder) (pattern : String) (spec : RouteSpec) (methods : String)
    (option : RuleOption) : Except RoutingError RouterBuilder := do
  let (filters, key, entry) ← compileRegistration pattern spec methods option
  return { b with rules := filters.foldl (fun t f => t.insert f key entry) b.rules }

/-- Registers a group of child rules under `scope`. -/
def group (b : RouterBuilder) (scope : String) (children : List (String × RouteSpec))
    (methods : String) (option : RuleOption) : Except RoutingError RouterBuilder :=
  b.register ("[" ++ scope ++ "]") (.group children) methods option

/-- The router, and the event reporting its size. -/
def build (b : RouterBuilder) : Router × LogEvent :=
  ({ separator := b.separator, urlMap := b.urlMap, domains := b.domains, rules := b.rules },
   { level := .debug, target := routerTarget, message := "Built router",
     fields := [("rules", .shown (toString b.rules.size)),
                ("domains", .shown (toString b.domains.size)),
                ("url_map", .shown (toString b.urlMap.size))] })

end RouterBuilder

/-- What a dispatch has done so far: deadline checks made and events reported. -/
structure Walk where
  checks : Nat := 0
  events : Array LogEvent := #[]

/-- Dispatch steps: they may stop with a dispatch error, and keep the walk either way. -/
abbrev WalkM := ExceptT DispatchError (StateM Walk)

/-- Reports an event. -/
def report (e : LogEvent) : WalkM Unit :=
  modify fun w => { w with events := w.events.push e }

/-- Checks the deadline, stopping the dispatch when it has passed. -/
def checkDeadline (req : RouteRequest) : WalkM Unit := do
  let w ← get
  set { w with checks := w.checks + 1 }
  if req.deadlinePassed w.checks then throw .deadlineExceeded

/-- The event for a rule whose pattern matched: either it gave the outcome, or its handler
passed. -/
def ruleEvent (rule : Rule) (path : String) (found : Bool) : LogEvent :=
  { level := .debug, target := routerTarget,
    message := if found then "Matched rule" else "Handler continued walk",
    fields := [("rule", .quoted rule.matcher.source), ("path", .quoted path)] }

/-- The outcome of one rule on a path, if its pattern matches and it does not pass. -/
def tryRule (rule : Rule) (path : String) (req : RouteRequest) (st : DispatchState) :
    WalkM (Option MatchResult) := do
  let matched := match rule.matcher with
    | .regex p => (p.matchPath path).map fun m => resolveRegex m path rule.target req st
    | .rule p => (p.matchPath path).map fun m => resolveRule m rule.target req st
  match matched with
  | none => return none
  | some result =>
    report (ruleEvent rule path result.isSome)
    return result

/-- Walks the children of a group on the path below its scope. -/
def walkGroup (rest : String) (req : RouteRequest) (st : DispatchState) :
    List Rule → WalkM (Option MatchResult)
  | [] => return none
  | child :: children => do
    checkDeadline req
    if !child.option.allows req then walkGroup rest req st children
    else
      match ← tryRule child rest req st with
      | some result => return some result
      | none => walkGroup rest req st children

/-- Walks the candidate entries on a normalized path. -/
def walkEntries (path : String) (req : RouteRequest) (st : DispatchState) :
    List Entry → WalkM (Option MatchResult)
  | [] => return none
  | entry :: entries => do
    checkDeadline req
    if !entry.option.allows req then walkEntries path req st entries
    else
      let result ← match entry with
        | .rule r => tryRule r path req st
        | .group g =>
          match g.below path with
          | some rest => walkGroup rest req st g.children
          | none => pure none
      match result with
      | some r => return some r
      | none => walkEntries path req st entries

namespace Router

/-- Normalizes a path with the router's separator. -/
def normalize (r : Router) (path : String) : String :=
  normalizePath path r.separator

/-- The domain stage: the outcome when a domain handler finished the request, and the state
for the next stages. -/
def checkDomain (r : Router) (req : RouteRequest) :
    WalkM (Option MatchResult × DispatchState) := do
  let st : DispatchState := { query := req.query, boundModule := none }
  match req.host with
  | none => return (none, st)
  | some host =>
    match r.domains.resolve host with
    | none => return (none, st)
    | some d =>
      report { level := .debug, target := routerTarget, message := "Matched domain rule",
               fields := [("host", .quoted host), ("wildcard", .optionalText d.wildcard)] }
      match d.target with
      | .module m => return (none, { st with boundModule := some m })
      | .moduleWithQuery m q =>
        let params := Query.parse q
        let params := match d.wildcard with
          | some w => params.replaceFirstValue "*" w
          | none => params
        return (none, { query := st.query.merge params, boundModule := some m })
      | .handler h =>
        match h.call with
        | .pass => return (none, st)
        | .handled body => return (some (.handled body), st)
        | .redirect rd => return (some (.redirect rd), st)
        | .matched route => return (some (.resolved { route, query := st.query }), st)

/-- Dispatches a request through the three stages. -/
def dispatchM (r : Router) (req : RouteRequest) : WalkM MatchResult := do
  let (early, st) ← r.checkDomain req
  match early with
  | some result => return result
  | none =>
    let path := r.normalize req.path
    match r.urlMap.get? path with
    | some address =>
      report { level := .debug, target := routerTarget, message := "Matched URL map",
               fields := [("path", .shown path), ("address", .shown address)] }
      return .resolved (resolveMapped address st)
    | none =>
      match ← walkEntries path req st (r.rules.candidates req.method) with
      | some result => return result
      | none => return .noMatch st.boundModule st.query

/-- The outcome of dispatching a request, with the events reported on the way. -/
def dispatchTraced (r : Router) (req : RouteRequest) :
    Except DispatchError MatchResult × List LogEvent :=
  let (result, w) := (r.dispatchM req).run.run {}
  (result, w.events.toList)

/-- The outcome of dispatching a request. -/
def dispatch (r : Router) (req : RouteRequest) : Except DispatchError MatchResult :=
  (r.dispatchTraced req).1

end Router

end RuleRouting
