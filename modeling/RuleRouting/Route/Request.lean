import RuleRouting.Route.Basic
import RuleRouting.Route.Method

/-!
# Route requests and match results

A route request holds the parts of an incoming request that routing looks at. Its deadline is
a clock: the answer to "has the deadline passed?" at the first, second, … check during one
dispatch. A request without a deadline never runs out of time.
-/

namespace RuleRouting

/-- Answers whether the deadline has passed at the `n`-th check (counting from 0). -/
abbrev Clock := Nat → Bool

/-- The parts of a request that routing looks at. -/
structure RouteRequest where
  method : Method := Method.get
  /-- The host, without a port. -/
  host : Option String := none
  /-- The path, written with the configured separator. -/
  path : String
  /-- The query parameters the request already has. -/
  query : Query := OrderedMap.empty
  https : Bool := false
  /-- The suffix split off the last path segment, such as `html`. -/
  extension : Option String := none
  deadline : Option Clock := none

/-- Whether the deadline has passed at the `n`-th check. -/
def RouteRequest.deadlinePassed (r : RouteRequest) (n : Nat) : Bool :=
  match r.deadline with
  | some clock => clock n
  | none => false

/-- The outcome of dispatching a request. -/
inductive MatchResult where
  /-- A route with the parameters to install. -/
  | resolved (r : ResolvedRoute)
  | redirect (r : Redirect)
  /-- A handler already produced the response body. -/
  | handled (body : String)
  /-- Nothing matched; the caller falls back to positional decomposition. -/
  | noMatch (boundModule : Option String) (query : Query)

end RuleRouting
