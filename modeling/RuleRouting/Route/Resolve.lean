import RuleRouting.Route.Table
import RuleRouting.Route.Decompose
import RuleRouting.Text.Utf8

/-!
# Resolving a match

Once a rule's pattern matched, its target decides the outcome. Parameters are merged with
later sources winning: captured values, the target's declared query, `key/value` pairs read
off the unconsumed rest of the path, and the target's extra query. The request's own
parameters (after domain parameters were merged in) win over all of them.

A rule-syntax match refers to its captured values by position in declared query values that
are exactly `:N`; a regular-expression match substitutes `:N` anywhere in the address with
group N. The rest of the path after a regular-expression match is the part after as many
bytes as the whole match is long, or nothing when that cut falls inside a character.
-/

namespace RuleRouting

/-- The state carried through one dispatch. -/
structure DispatchState where
  /-- The request query, after domain parameters were merged in. -/
  query : Query
  /-- The module bound by a domain rule. -/
  boundModule : Option String

/-- A resolved outcome: the bound module fills a missing module, and the state's query wins
over the parameters. -/
def DispatchState.resolved (st : DispatchState) (route : Route) (params : Query) : MatchResult :=
  .resolved { route := route.withBoundModule st.boundModule, query := params.under st.query }

/-- The outcome of a handler; `none` when it passes. -/
def fromOutcome (outcome : HandlerOutcome) (params : Query) (st : DispatchState) :
    Option MatchResult :=
  match outcome with
  | .pass => none
  | .handled body => some (.handled body)
  | .redirect r => some (.redirect r)
  | .matched route => some (st.resolved route params)

/-- The index a declared value `:N` refers to (N > 0). -/
def backReference (value : String) : Option Nat :=
  match value.toList with
  | ':' :: rest => (Text.parseUnsigned (String.ofList rest) Text.maxUsize).filter (· > 0)
  | _ => none

/-- A declared value after a rule-syntax match: a back-reference `:N` takes the N-th
captured value, or nothing; any other value stays. -/
def declaredValue (lookup : Nat → Option String) (v : String) : String :=
  match backReference v with
  | some i => (lookup i).getD ""
  | none => v

/-- The route and the declared parameters of an address after a rule-syntax match. -/
def declaredRoute (address : String) (method : Method) (lookup : Nat → Option String) :
    Route × Query :=
  let (route, declared) := parseRoute address method
  (route, declared.mapValues fun _ v => declaredValue lookup v)

/-- Resolves a rule-syntax match; `none` when a handler passes. -/
def resolveRule (m : RuleMatch) (target : Target) (req : RouteRequest) (st : DispatchState) :
    Option MatchResult :=
  let values := m.captures.values
  let lookup := fun (i : Nat) => if i = 0 then none else values[i - 1]?
  match target with
  | .handler h => fromOutcome (h.callNamed m.captures) m.captures st
  | .redirect address status => some (.redirect ⟨substitute address lookup, status⟩)
  | .route address extra =>
    let (route, declared) := declaredRoute address req.method lookup
    let params := ((m.captures.merge declared).merge (Query.fromPathPairs m.residual)).merge
      (extra.getD OrderedMap.empty)
    some (st.resolved route params)

/-- The path after the first `n` bytes, or nothing when the cut falls inside a character or
past the end. -/
def afterBytes (path : String) (n : Nat) : String :=
  String.ofList ((Text.dropBytes path.toList n).getD [])

/-- Resolves a regular-expression match on `path`; `none` when a handler passes. -/
def resolveRegex (m : RegexMatch) (path : String) (target : Target) (req : RouteRequest)
    (st : DispatchState) : Option MatchResult :=
  let lookup := fun (i : Nat) => (m.groups[i]?).join
  match target with
  | .handler h => fromOutcome (h.callPositional m.groups) OrderedMap.empty st
  | .redirect address status => some (.redirect ⟨substitute address lookup, status⟩)
  | .route address extra =>
    let (route, params) := parseRoute (substitute address lookup) req.method
    let params := (params.merge (Query.fromPathPairs (afterBytes path m.matchedLen))).merge
      (extra.getD OrderedMap.empty)
    some (st.resolved route params)

/-- Resolves a URL-map address: split at the first `?`, the request query wins over the
address query, and the address path is decomposed with the bound module. -/
def resolveMapped (address : String) (st : DispatchState) : ResolvedRoute :=
  let (path, params) := match Text.splitOnce address '?' with
    | some (p, q) => (p, Query.parse q)
    | none => (address, OrderedMap.empty)
  decompose path st.boundModule (params.merge st.query)

end RuleRouting
