import RuleRouting.Route.Basic
import RuleRouting.Query.PathPairs
import RuleRouting.Text.Split

/-!
# Positional decomposition

A normalized path `module/controller/action/key/value/...` names its route by position. Empty
segments are skipped. When a module is bound (by a domain rule), the first segment is the
controller instead. The rest is read as `key/value` pairs, and the given query wins over them.
-/

namespace RuleRouting

/-- Decomposes a normalized path by position; `query` wins over the pairs of the rest. -/
def decompose (path : String) (bound : Option String) (query : Query) : ResolvedRoute :=
  let parts := (Text.split path '/').filter (· ≠ "")
  let (module, parts) :=
    match bound with
    | some m => (some m, parts)
    | none => (parts.head?, parts.drop 1)
  { route := { module, controller := parts.head?, action := (parts.drop 1).head? }
    query := (Query.fromPathPairs (Text.join (parts.drop 2) '/')).under query }

end RuleRouting
