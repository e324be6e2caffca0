import RuleRouting.Route.Basic

/-!
# Handlers

A handler is a function that a rule calls instead of resolving a route. It declares parameter
names; a rule-syntax match passes the captured value of each name, and a regular-expression
match passes groups 1, 2, … in order. Its outcome either finishes the request or passes, and
the walk goes on with the next rule.
-/

namespace RuleRouting

/-- What a handler decided. -/
inductive HandlerOutcome where
  /-- The response body. -/
  | handled (body : String)
  /-- A route to resolve with the match's parameters. -/
  | matched (route : Route)
  | redirect (r : Redirect)
  /-- Not this handler's request: the walk goes on. -/
  | pass
  deriving DecidableEq

/-- A function called with one optional argument per declared parameter. -/
structure Handler where
  params : List String
  respond : List (Option String) → HandlerOutcome

namespace Handler

/-- Calls the handler with no arguments. -/
def call (h : Handler) : HandlerOutcome :=
  h.respond []

/-- Calls the handler with the captured value of each parameter name. -/
def callNamed (h : Handler) (captures : OrderedMap String) : HandlerOutcome :=
  h.respond (h.params.map captures.get?)

/-- Calls the handler with groups 1, 2, … of a match, one per parameter. -/
def callPositional (h : Handler) (groups : List (Option String)) : HandlerOutcome :=
  h.respond ((List.range h.params.length).map fun i => (groups[i + 1]?).join)

end Handler

end RuleRouting
