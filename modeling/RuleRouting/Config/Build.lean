import RuleRouting.Config.Dispatcher
import RuleRouting.Route.Router

/-!
# Building a router from a configuration

The separator, the URL map and the domain rules are set first; then each rule is registered
in order. A rule with a group registers the group (the group wins over a pattern); a rule with
only a pattern registers that pattern; a rule with neither is an empty pattern. A target with a
status becomes a redirect address with that status (the status wins over extra parameters),
a target with extra parameters carries them, and a missing route is the empty address.
-/

namespace RuleRouting

/-- The registration target of a configured rule target. -/
def TargetConfig.spec (t : TargetConfig) : RouteSpec :=
  let route := t.route.getD ""
  match t.extra, t.status with
  | _, some s => .withExtra route (toString s)
  | some e, none => .withExtra route e
  | none, none => .address route

/-- The rule option of configured options; the extension is lowercased (ASCII). -/
def OptionConfig.toRuleOption (o : OptionConfig) : RuleOption :=
  { method := o.method.map HttpMethod.toMethod,
    extension := o.ext.map Text.asciiLowercase,
    https := o.https }

/-- The domain target of a configured domain rule. -/
def DomainConfig.target (d : DomainConfig) : DomainTarget :=
  match d.query with
  | some q => .moduleWithQuery d.module q
  | none => .module d.module

/-- Registers one configured rule. -/
def registerRule (b : RouterBuilder) (r : RuleConfig) : Except RoutingError RouterBuilder :=
  let option := r.option.toRuleOption
  match r.pattern, r.group with
  | _, some scope =>
    b.group scope (r.routes.map fun route => (route.pattern, route.target.spec)) r.methods option
  | some p, none => b.register p r.target.spec r.methods option
  | none, none => throw .emptyPattern

/-- Registers the configured rules in order, stopping at the first error. -/
def registerRules (b : RouterBuilder) : List RuleConfig → Except RoutingError RouterBuilder
  | [] => pure b
  | r :: rs => do
    let b ← registerRule b r
    registerRules b rs

/-- The builder holding everything a configuration declares. -/
def DispatcherConfig.builder (c : DispatcherConfig) : Except RoutingError RouterBuilder :=
  let b := ({} : RouterBuilder).withSeparator c.pathSeparator
  let b := c.urlMap.entries.foldl (fun b e => b.map e.1 e.2) b
  let b := c.domains.foldl (fun b d => b.domain d.pattern d.target) b
  registerRules b c.rules

/-- Builds the router a configuration declares, with the event reporting it. -/
def DispatcherConfig.buildRouter (c : DispatcherConfig) : Except RoutingError (Router × LogEvent) :=
  c.builder.map RouterBuilder.build

end RuleRouting
