import RuleRouting.Route.Request

/-!
# Rule options

Extra conditions a rule places on the request besides its pattern: the method, the extension
split off the path, https, and an arbitrary predicate. A rule applies only when every
condition it sets holds.
-/

namespace RuleRouting

/-- The conditions a rule places on the request. -/
structure RuleOption where
  method : Option Method := none
  extension : Option String := none
  https : Bool := false
  predicate : Option (RouteRequest → Bool) := none

/-- Whether every condition set by the option holds for the request. -/
def RuleOption.allows (o : RuleOption) (r : RouteRequest) : Bool :=
  (match o.method with
    | some m => m == r.method
    | none => true) &&
  (match o.extension with
    | some e => r.extension == some e
    | none => true) &&
  (!o.https || r.https) &&
  (match o.predicate with
    | some p => p r
    | none => true)

end RuleRouting
