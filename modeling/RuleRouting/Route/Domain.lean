import RuleRouting.Route.Handler
import RuleRouting.Text.Split

/-!
# Domain rules

A domain rule binds requests for a host to a module, optionally with query parameters, or
hands them to a handler. The rule for a host is the first present of: the host itself; the
host without its last two labels; `*.second`, where `second` is the label just before the
last two, when a non-empty label stands before it (that label is the wildcard); and `*`, when
`second` is non-empty and not `www` (then `second` is the wildcard).
-/

namespace RuleRouting

/-- What a domain rule does. -/
inductive DomainTarget where
  | module (m : String)
  /-- A module and a query string whose first `*` value becomes the wildcard label. -/
  | moduleWithQuery (m q : String)
  | handler (h : Handler)

/-- The rule found for a host, and the label a wildcard rule captured. -/
structure DomainMatch where
  target : DomainTarget
  wildcard : Option String

/-- Domain rules by pattern. -/
structure DomainTable where
  rules : OrderedMap DomainTarget := OrderedMap.empty

namespace DomainTable

/-- Sets the rule for a pattern. -/
def insert (t : DomainTable) (pattern : String) (target : DomainTarget) : DomainTable :=
  ⟨t.rules.insert pattern target⟩

/-- The number of rules. -/
def size (t : DomainTable) : Nat := t.rules.size

/-- The rule for a host, by the priority order above. -/
def resolve (t : DomainTable) (host : String) : Option DomainMatch :=
  match t.rules.get? host with
  | some target => some ⟨target, none⟩
  | none =>
    let labels := Text.split host '.'
    if labels.length ≤ 2 then none
    else
      let sub := labels.take (labels.length - 2)
      let second := sub.getLastD ""
      let third := (sub.reverse.drop 1).head?
      match t.rules.get? (Text.join sub '.') with
      | some target => some ⟨target, none⟩
      | none =>
        let wildThird : Option DomainMatch :=
          match third with
          | some l =>
            if l.isEmpty then none
            else (t.rules.get? ("*." ++ second)).map fun target => ⟨target, some l⟩
          | none => none
        match wildThird with
        | some m => some m
        | none =>
          if !second.isEmpty && second ≠ "www" then
            (t.rules.get? "*").map fun target => ⟨target, some second⟩
          else none

end DomainTable

end RuleRouting
