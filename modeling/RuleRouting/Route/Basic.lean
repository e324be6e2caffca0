import RuleRouting.Query.Basic

/-!
# Routes and redirects

A route names the code that handles a request: an optional module, controller and action.
A redirect sends the client elsewhere with a status code. A resolved route carries the query
parameters to install on the request.
-/

namespace RuleRouting

/-- A `[module/]controller/action` triple; any part may be absent. -/
structure Route where
  module : Option String := none
  controller : Option String := none
  action : Option String := none
  deriving Repr, DecidableEq, Inhabited

namespace Route

/-- Fills in the bound module when the route names none. -/
def withBoundModule (r : Route) (bound : Option String) : Route :=
  match r.module with
  | some _ => r
  | none => { r with module := bound }

end Route

/-- Where to send the client, and with which status. -/
structure Redirect where
  location : String
  status : Nat
  deriving Repr, DecidableEq

/-- A route together with the merged query parameters to install on the request. -/
structure ResolvedRoute where
  route : Route
  query : Query

end RuleRouting
