import RuleRouting.Route.Handler
import RuleRouting.Route.Method
import RuleRouting.Error
import RuleRouting.Query.Form
import RuleRouting.Text.Blank
import RuleRouting.Text.Number
import RuleRouting.Text.Word
import RuleRouting.Text.Split

/-!
# Route targets

What a rule leads to once its pattern matched. An address starting with `/` or `http` is
external: a redirect, with status 301 unless a status in 300–399 is given. Any other address
is a route `[module/]controller/action?query`, or only `key=value&…` parameters; an extra
query string may be added to it. A handler target calls a function.

In an address, `:N` (a colon and decimal digits) refers to the N-th captured value; a
reference to a missing value, or `:0`, is replaced by nothing.
-/

namespace RuleRouting

/-- The action written `[rest]` stands for the request method's name. -/
def restAction : String := "[rest]"

/-- The status of a redirect given without one. -/
def defaultRedirectStatus : Nat := 301

/-- A rule's target as written at registration. -/
inductive RouteSpec where
  /-- A route, parameters, or an external address. -/
  | address (a : String)
  /-- An address with an extra query string (routes) or a status (redirects). -/
  | withExtra (a extra : String)
  | handler (h : Handler)
  /-- The child rules of a group, by pattern. -/
  | group (children : List (String × RouteSpec))

/-- A compiled leaf target. -/
inductive Target where
  | redirect (address : String) (status : Nat)
  | route (route : String) (extra : Option Query)
  | handler (h : Handler)

/-- Whether an address leaves the application. -/
def isExternal (address : String) : Bool :=
  address.startsWith "/" || address.startsWith "http"

/-- Compiles the target of the rule `pattern`. -/
def Target.compile (pattern : String) : RouteSpec → Except RoutingError Target
  | .address a => if isExternal a then .ok (.redirect a defaultRedirectStatus) else .ok (.route a none)
  | .withExtra a extra =>
    if isExternal a then
      match Text.parseUnsigned (Text.trimBlankString extra) Text.maxU16 with
      | some code => if 300 ≤ code ∧ code < 400 then .ok (.redirect a code)
                     else .error (.invalidStatus a extra)
      | none => .error (.invalidStatus a extra)
    else .ok (.route a (some (Query.parse extra)))
  | .handler h => .ok (.handler h)
  | .group _ => .error (.unexpectedGroup pattern)

/-- The replacement of the reference `:digits`: the value it names, or nothing. -/
def referenceValue (lookup : Nat → Option String) (digits : List Char) : String :=
  match Text.parseUnsigned (String.ofList digits) Text.maxUsize with
  | some n => if n > 0 then (lookup n).getD "" else ""
  | none => ""

/-- Replaces every `:digits` reference, scanning left to right. -/
def substituteChars (lookup : Nat → Option String) : List Char → List Char
  | [] => []
  | ':' :: rest =>
    let digits := rest.takeWhile Text.isDecimalDigit
    if digits.isEmpty then ':' :: substituteChars lookup rest
    else (referenceValue lookup digits).toList ++
      substituteChars lookup (rest.drop digits.length)
  | c :: rest => c :: substituteChars lookup rest
termination_by cs => cs.length
decreasing_by all_goals (simp only [List.length_cons, List.length_drop]; omega)

/-- Replaces every `:N` reference in a template by the N-th value. -/
def substitute (template : String) (lookup : Nat → Option String) : String :=
  String.ofList (substituteChars lookup template.toList)

/-- The route named by the segments of a path: the last non-empty one is the action (`[rest]`
stands for the method), the one before the controller, the one before that the module. -/
def routeOfPath (path : String) (method : Method) : Route :=
  let parts := ((Text.split path '/').filter (· ≠ "")).reverse
  { action := parts.head?.map fun a => if a = restAction then method.name else a
    controller := (parts.drop 1).head?
    module := (parts.drop 2).head? }

/-- Whether the first `/` of an address stands after its first character. -/
def hasInnerSlash (address : String) : Bool :=
  match address.toList with
  | [] => false
  | c :: rest => c ≠ '/' && rest.contains '/'

/-- Reads a route address: `path?query` gives both, a path with a `/` after its first
character gives the route only, anything else gives the parameters only. -/
def parseRoute (address : String) (method : Method) : Route × Query :=
  match Text.splitOnce address '?' with
  | some (path, q) => (routeOfPath path method, Query.parse q)
  | none =>
    if hasInnerSlash address then (routeOfPath address method, OrderedMap.empty)
    else ({}, Query.parse address)

end RuleRouting
