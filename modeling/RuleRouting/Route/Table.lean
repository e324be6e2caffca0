import RuleRouting.Route.Option
import RuleRouting.Route.Target
import RuleRouting.Pattern.Rule
import RuleRouting.Pattern.Delimited

/-!
# Rules and the rule table

A rule is a pattern (rule syntax, or a delimited regular expression), a target and options. A
group gathers child rules under a common leading path. The rule table keeps, for each method
and for "any method", an insertion-ordered map from rule keys to entries: registering a key
again replaces its entry in place.

The candidates for a method are that method's entries in order, then the "any method" entries
whose key was not registered for the method: a method's own rule shadows the general one.
-/

namespace RuleRouting

/-- How a rule matches a path. -/
inductive Matcher where
  | rule (p : RulePattern)
  | regex (p : RegexPattern)

/-- The pattern as written. -/
def Matcher.source : Matcher → String
  | .rule p => p.source
  | .regex p => p.source

/-- A leaf rule. -/
structure Rule where
  matcher : Matcher
  target : Target
  option : RuleOption

/-- Compiles a leaf rule: the pattern must not be empty; a delimited pattern is a regular
expression; then the target is compiled. -/
def Rule.compile (pattern : String) (spec : RouteSpec) (option : RuleOption) :
    Except RoutingError Rule := do
  if pattern.isEmpty then throw .emptyPattern
  let matcher ← if isDelimited pattern then Matcher.regex <$> RegexPattern.parse pattern
    else pure (Matcher.rule (RulePattern.parse pattern))
  let target ← Target.compile pattern spec
  return { matcher, target, option }

/-- Rules under a common leading path, its scope. -/
structure RuleGroup where
  scope : String
  children : List Rule
  option : RuleOption

/-- Compiles the child rules of a group, in order; children get default options. -/
def compileChildren : List (String × RouteSpec) → Except RoutingError (List Rule)
  | [] => pure []
  | (p, spec) :: rest => do
    let r ← Rule.compile p spec {}
    let rs ← compileChildren rest
    return r :: rs

/-- Compiles a group: the scope loses its leading and trailing `/` and must not be empty. -/
def RuleGroup.compile (scope : String) (children : List (String × RouteSpec))
    (option : RuleOption) : Except RoutingError RuleGroup := do
  let scope := Text.trimChar scope '/'
  if scope.isEmpty then throw .emptyPattern
  let children ← compileChildren children
  return { scope, children, option }

/-- The path below the group's scope: the path is the scope itself, or the scope followed by
`/` and the rest. Comparison is exact. -/
def RuleGroup.below (g : RuleGroup) (path : String) : Option String :=
  match Text.afterLeading g.scope.toList path.toList with
  | some [] => some ""
  | some ('/' :: rest) => some (String.ofList rest)
  | _ => none

/-- An entry of the rule table. -/
inductive Entry where
  | rule (r : Rule)
  | group (g : RuleGroup)

/-- The options of an entry. -/
def Entry.option : Entry → RuleOption
  | .rule r => r.option
  | .group g => g.option

/-- Entries by rule key, in registration order. -/
abbrev Rules := OrderedMap Entry

/-- The rule table: entries per method name, and entries for any method. -/
structure RuleTable where
  byMethod : OrderedMap Rules := OrderedMap.empty
  anyMethod : Rules := OrderedMap.empty

namespace RuleTable

/-- Inserts an entry under one method filter. -/
def insert (t : RuleTable) (f : MethodFilter) (key : String) (e : Entry) : RuleTable :=
  match f with
  | .any => { t with anyMethod := t.anyMethod.insert key e }
  | .only m =>
    let rules := (t.byMethod.get? m.name).getD OrderedMap.empty
    { t with byMethod := t.byMethod.insert m.name (rules.insert key e) }

/-- The entries to try for a method, in order. -/
def candidates (t : RuleTable) (m : Method) : List Entry :=
  match t.byMethod.get? m.name with
  | some rules =>
    rules.values ++ (t.anyMethod.entries.filter fun e => !rules.contains e.1).map (·.2)
  | none => t.anyMethod.values

/-- The number of entries over all methods. -/
def size (t : RuleTable) : Nat :=
  t.anyMethod.size + (t.byMethod.values.map OrderedMap.size).foldr (· + ·) 0

end RuleTable

end RuleRouting
