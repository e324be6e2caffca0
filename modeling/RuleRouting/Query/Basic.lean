import RuleRouting.Data.OrderedMap

/-!
# Query parameters

A query is an ordered map from parameter names to values. Merging follows "later wins": a
key already present takes the new value and keeps its position, a new key goes to the end.
`q.under base` reads "q, with every key of `base` forced to `base`'s value".
-/

namespace RuleRouting

/-- Query parameters: names to values, in the order the names first arrived. -/
abbrev Query := OrderedMap String

namespace Query

/-- `q` merged under `base`: every key of `base` keeps the base value, and `q`'s order
comes first. -/
def under (q base : Query) : Query := q.merge base

/-- Replaces the first value (in order) that equals `old` by `new`. -/
def replaceFirstValue (q : Query) (old new : String) : Query :=
  ⟨OrderedMap.updateFirstValue (fun v => v == old) new q.entries,
    by rw [OrderedMap.keys_updateFirstValue]; exact q.keys_nodup⟩

/-- The query as a list of `(name, value)` pairs, in order. -/
def pairs (q : Query) : List (String × String) := q.entries

end Query

end RuleRouting
