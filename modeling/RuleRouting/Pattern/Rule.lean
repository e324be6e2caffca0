import RuleRouting.Data.OrderedMap
import RuleRouting.Text.Split

/-!
# Rule-syntax path patterns

A rule pattern is a `/`-separated template such as `news/:id\d/:status^draft|hidden$`:

* a segment not starting with `:` is a literal, compared without regard to ASCII case;
* `:name` captures any value; `:name\d` captures a non-empty run of ASCII digits (the text
  after the *last* backslash is a type, and only `d` constrains); `:name^a|b` captures any
  value but the listed ones (the list is what follows the *first* `^`, split on `|`, empty
  members included);
* one trailing `$` makes the pattern exact: the path must have exactly as many segments.

Trailing `/` of the pattern are ignored. A path matches when it has at least as many
`/`-separated parts as the pattern has segments (exactly as many when exact) and every
segment accepts its part; the parts past the pattern form the residual, joined with `/`.
-/

namespace RuleRouting

/-- What a captured segment accepts. -/
inductive Constraint where
  /-- Any value. -/
  | any
  /-- A non-empty run of ASCII digits. -/
  | numeric
  /-- Any value except the listed ones. -/
  | excluding (values : List String)
  deriving Repr, DecidableEq

namespace Constraint

/-- Whether the constraint accepts `value`. -/
def allows : Constraint → String → Bool
  | .any, _ => true
  | .numeric, v => !v.isEmpty && v.toList.all Char.isDigit
  | .excluding vs, v => !vs.contains v

end Constraint

/-- One segment of a rule pattern. -/
inductive Segment where
  /-- Literal text, compared up to ASCII case. -/
  | literal (text : String)
  /-- A captured value under a name. -/
  | capture (name : String) (constraint : Constraint)
  deriving Repr, DecidableEq

namespace Segment

/-- Reads one segment of a pattern. -/
def parse (segment : String) : Segment :=
  match segment.toList with
  | ':' :: spec =>
    let spec := String.ofList spec
    match Text.splitOnceRight spec '\\' with
    | some (name, kind) => .capture name (if kind = "d" then .numeric else .any)
    | none =>
      match Text.splitOnce spec '^' with
      | some (name, excluded) => .capture name (.excluding (Text.split excluded '|'))
      | none => .capture spec .any
  | _ => .literal segment

end Segment

/-- A rule-syntax pattern, read from its source text. -/
structure RulePattern where
  source : String
  segments : List Segment
  exact : Bool
  deriving Repr

/-- A successful match: captures in pattern order (a repeated name keeps its first position
and its last value) and the path parts past the pattern. -/
structure RuleMatch where
  captures : OrderedMap String
  residual : String

namespace RulePattern

/-- Reads a rule pattern. -/
def parse (pattern : String) : RulePattern :=
  let (body, exact) :=
    match pattern.toList.reverse with
    | '$' :: rest => (String.ofList rest.reverse, true)
    | _ => (pattern, false)
  { source := pattern
    segments := (Text.split (Text.trimEndChar body '/') '/').map Segment.parse
    exact := exact }

/-- Matches segments against path parts, collecting captures; `none` when a segment refuses
its part. -/
def matchSegments : List Segment → List String → OrderedMap String → Option (OrderedMap String)
  | [], _, acc => some acc
  | _ :: _, [], _ => none
  | .literal text :: segs, part :: parts, acc =>
    if Text.eqIgnoreAsciiCase text part then matchSegments segs parts acc else none
  | .capture name c :: segs, part :: parts, acc =>
    if c.allows part then matchSegments segs parts (acc.insert name part) else none

/-- Matches a normalized path against the pattern. -/
def matchPath (p : RulePattern) (path : String) : Option RuleMatch :=
  let parts := Text.split path '/'
  if parts.length < p.segments.length then none
  else if p.exact && parts.length != p.segments.length then none
  else
    (matchSegments p.segments parts OrderedMap.empty).map fun captures =>
      { captures, residual := Text.join (parts.drop p.segments.length) '/' }

end RulePattern

end RuleRouting
