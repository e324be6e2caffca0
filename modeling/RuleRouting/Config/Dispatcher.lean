import RuleRouting.Data.OrderedMap
import RuleRouting.Route.Method

/-!
# The dispatcher configuration

The records of a dispatcher configuration file: two listeners, the path separator, the
dispatch timeout, the URL map, domain rules and routing rules. A routing rule is either a
single pattern or a group of child routes under a common path.

`DispatcherConfig.validate` checks what the records cannot express, in this order: both
ports are non-zero, no URL-map path is empty, no domain pattern is empty, and every rule is
a pattern or a group (not both, not neither) whose patterns are non-empty and whose targets
name a route and do not carry both extra parameters and a redirect status.
-/

namespace RuleRouting

/-- A network listener. -/
structure Listener where
  host : String
  port : Nat

/-- The methods a rule option may require. -/
inductive HttpMethod where
  | get
  | post
  | put
  | delete
  deriving DecidableEq, Repr

/-- The request method an option names. -/
def HttpMethod.toMethod : HttpMethod → Method
  | .get => Method.get
  | .post => Method.post
  | .put => Method.put
  | .delete => Method.delete

/-- Binds requests for a host pattern to a module, optionally with query parameters. -/
structure DomainConfig where
  pattern : String
  module : String
  query : Option String

/-- What a rule resolves to: a route or redirect address, extra parameters, a status. -/
structure TargetConfig where
  route : Option String := none
  extra : Option String := none
  status : Option Nat := none

/-- Request conditions a rule applies under. -/
structure OptionConfig where
  method : Option HttpMethod := none
  ext : Option String := none
  https : Bool := false

/-- A rule inside a group; its pattern is relative to the group's path. -/
structure GroupRouteConfig where
  pattern : String
  target : TargetConfig

/-- A routing rule, or a group of rules sharing a leading path. -/
structure RuleConfig where
  methods : String := "*"
  pattern : Option String := none
  group : Option String := none
  target : TargetConfig := {}
  option : OptionConfig := {}
  routes : List GroupRouteConfig := []

/-- A dispatcher configuration. -/
structure DispatcherConfig where
  listener : Listener
  adminListener : Listener
  pathSeparator : Char := '/'
  dispatchTimeoutMs : Option Nat := none
  urlMap : OrderedMap String := OrderedMap.empty
  domains : List DomainConfig := []
  rules : List RuleConfig := []

/-- Why a configuration is refused. -/
inductive ValidationError where
  | invalidPort
  | ambiguousRule
  | emptyPattern
  | missingRoute (pattern : String)
  | missingRoutes (group : String)
  | extraWithStatus (pattern : String)
  | emptyDomain
  | emptyMapPath
  deriving DecidableEq, Repr

/-- The kind of a validation error, as a name. -/
def ValidationError.kind : ValidationError → String
  | .invalidPort => "InvalidPort"
  | .ambiguousRule => "AmbiguousRule"
  | .emptyPattern => "EmptyPattern"
  | .missingRoute _ => "MissingRoute"
  | .missingRoutes _ => "MissingRoutes"
  | .extraWithStatus _ => "ExtraWithStatus"
  | .emptyDomain => "EmptyDomain"
  | .emptyMapPath => "EmptyMapPath"

/-- The text of a validation error. -/
def ValidationError.message : ValidationError → String
  | .invalidPort => "Port cannot be 0"
  | .ambiguousRule => "Rule needs either a pattern or a group, not both"
  | .emptyPattern => "Empty rule pattern"
  | .missingRoute p => "Rule " ++ p ++ " has no route"
  | .missingRoutes g => "Group " ++ g ++ " has no routes"
  | .extraWithStatus p => "Rule " ++ p ++ " cannot carry both extra parameters and a redirect status"
  | .emptyDomain => "Empty domain pattern"
  | .emptyMapPath => "Empty url map path"

/-- A listener needs a non-zero port. -/
def Listener.validate (l : Listener) : Except ValidationError Unit :=
  if l.port = 0 then throw .invalidPort else pure ()

/-- A target must name a route, and may not carry both extra parameters and a status. -/
def TargetConfig.validate (t : TargetConfig) (pattern : String) : Except ValidationError Unit := do
  match t.route with
  | none => throw (.missingRoute pattern)
  | some r => if r.isEmpty then throw (.missingRoute pattern)
  if t.extra.isSome && t.status.isSome then throw (.extraWithStatus pattern)

/-- Checks the child routes of a group in order. -/
def validateRoutes : List GroupRouteConfig → Except ValidationError Unit
  | [] => pure ()
  | r :: rs => do
    if r.pattern.isEmpty then throw .emptyPattern
    r.target.validate r.pattern
    validateRoutes rs

/-- A rule is a non-empty pattern with a target, or a non-empty group with routes. -/
def RuleConfig.validate (r : RuleConfig) : Except ValidationError Unit :=
  match r.pattern, r.group with
  | some p, none => do
    if p.isEmpty then throw .emptyPattern
    r.target.validate p
  | none, some g => do
    if g.isEmpty then throw .emptyPattern
    if r.routes.isEmpty then throw (.missingRoutes g)
    validateRoutes r.routes
  | _, _ => throw .ambiguousRule

/-- Checks the rules in order. -/
def validateRules : List RuleConfig → Except ValidationError Unit
  | [] => pure ()
  | r :: rs => do
    r.validate
    validateRules rs

/-- Checks a configuration, reporting the first problem in the order described above. -/
def DispatcherConfig.validate (c : DispatcherConfig) : Except ValidationError Unit := do
  c.listener.validate
  c.adminListener.validate
  if c.urlMap.keys.any (·.isEmpty) then throw .emptyMapPath
  if c.domains.any (·.pattern.isEmpty) then throw .emptyDomain
  validateRules c.rules

end RuleRouting
