import RuleRouting.Log
import RuleRouting.Regex.Parse
import RuleRouting.Text.Word

/-!
# Log filters

Which events are printed is set by a filter: a comma-separated list of directives. A directive
is a level (`trace`, `debug`, `info`, `warn`, `error`, `off` in any case, or `0` to `5`), or a
target and/or a bracketed span part, optionally followed by `=` and a level (no level after the
target means every level):

* `target=level` shows the events of the targets starting with `target` up to `level`;
* `[span{field=value,…}]` parts restrict a directive to spans and field values; events
  outside spans are never shown by a directive with a span name or a field value, while a
  field without a value requires the event to carry that field.

An event is shown when the most specific directive that applies to it (longest target, then
most fields) allows its level; with no such directive it is not shown. A later directive with
the same target and fields replaces an earlier one. A filter that does not read is replaced by
the default filter.
-/

namespace RuleRouting.Cli

/-- One directive of a filter. `limit` is the most verbose level shown (0 shows nothing). -/
structure Directive where
  target : Option String
  spanName : Option String
  fields : List (String × Option String)
  limit : Nat
  deriving Repr, DecidableEq

/-- The limit a level word names, in any case, or `0`–`5` written as a number. -/
def levelLimit? (s : String) : Option Nat :=
  let digits := s.toList
  if !digits.isEmpty && digits.all Char.isDigit then
    let n := digits.foldl (fun acc c => acc * 10 + (c.toNat - '0'.toNat)) 0
    if n ≤ 5 then some n else none
  else
    let lower := String.ofList (s.toList.map Char.toLower)
    match lower with
    | "off" => some 0
    | "error" => some 1
    | "warn" => some 2
    | "info" => some 3
    | "debug" => some 4
    | "trace" => some 5
    | _ => none

/-- Whether a text is a level as a whole directive: a level word in any case or one digit
`0`–`5`. -/
def isLevelText (s : String) : Bool :=
  match s.toList with
  | [c] => '0' ≤ c && c ≤ '5'
  | _ => (["off", "error", "warn", "info", "debug", "trace"].contains
      (String.ofList (s.toList.map Char.toLower)))

/-- A character of a target. -/
def isTargetChar (c : Char) : Bool := Text.isWordChar c || c = ':' || c = '-'

/-- A piece of a directive before its level: a target run or a bracketed span part. -/
inductive Piece where
  | target (s : String)
  | span (s : String)

/-- Reads up to two pieces from the front of a directive. -/
def readPieces : Nat → List Char → List Piece × List Char
  | 0, cs => ([], cs)
  | n + 1, '[' :: rest =>
    match rest.span (· ≠ ']') with
    | (inner, ']' :: after) =>
      let (more, left) := readPieces n after
      (.span ("[" ++ String.ofList inner ++ "]") :: more, left)
    | _ => ([], '[' :: rest)
  | n + 1, cs =>
    match cs.span isTargetChar with
    | ([], _) => ([], cs)
    | (run, after) =>
      let (more, left) := readPieces n after
      (.target (String.ofList run) :: more, left)

/-- The last target piece, and the last span piece. -/
def lastPieces (ps : List Piece) : Option String × Option String :=
  ps.foldl (fun acc p =>
    match p with
    | .target s => (some s, acc.2)
    | .span s => (acc.1, some s)) (none, none)

/-- Whether a character may start a field name. -/
def isFieldStart (c : Char) : Bool := c.isAlphanum || c = '_'

/-- Whether a character may continue a field name. -/
def isFieldChar (c : Char) : Bool := isFieldStart c || c = '.'

/-- The field filters in a span part's braces: each name, with the text after its first `=`
(up to a second `=`), found left to right; text that starts no name is skipped. -/
def fieldMatches : List Char → Nat → List String
  | [], _ => []
  | _, 0 => []
  | c :: rest, fuel + 1 =>
    if isFieldStart c then
      let (name, after) := rest.span isFieldChar
      match after with
      | [] => [String.ofList (c :: name)]
      | '=' :: v => if v.isEmpty then fieldMatches after fuel
          else [String.ofList (c :: name) ++ "=" ++ String.ofList v]
      | _ => fieldMatches rest fuel
    else fieldMatches rest fuel

/-- Whether a text reads as a number (integer or floating point, with an optional sign). -/
def isNumberText (s : String) : Bool :=
  let body := match s.toList with
    | '+' :: r => r
    | '-' :: r => r
    | r => r
  let word := String.ofList (body.map Char.toLower)
  if word = "inf" || word = "infinity" || word = "nan" then true
  else
    let (mantissa, expo) := body.span fun c => c ≠ 'e' && c ≠ 'E'
    let mantissaOk := mantissa.any Char.isDigit &&
      mantissa.all (fun c => c.isDigit || c = '.') && (mantissa.filter (· = '.')).length ≤ 1
    let expoOk := match expo with
      | [] => true
      | _ :: r =>
        let ds := match r with
          | '+' :: d => d
          | '-' :: d => d
          | d => d
        !ds.isEmpty && ds.all Char.isDigit
    mantissaOk && expoOk

/-- Whether a field value reads: a boolean, a number or a regular expression. -/
def fieldValueReads (v : String) : Bool :=
  v = "true" || v = "false" || isNumberText v || (Regex.parse v {}).toBool

/-- The name and optional value of a field filter. -/
def fieldFilter (m : String) : String × Option String :=
  match m.splitOn "=" with
  | name :: value :: _ => (name, some value)
  | name :: [] => (name, none)
  | [] => ("", none)

/-- Reads a span part: its name and its field filters. -/
def readSpanPart (bracketed : String) : Option (Option String × List (String × Option String)) :=
  let inner := (bracketed.toList.dropWhile fun c => c = '[' || c = ']').reverse.dropWhile
    (fun c => c = '[' || c = ']') |>.reverse
  let (name, rest) := inner.span fun c => c ≠ ']' && c ≠ '{'
  let spanName := if name.isEmpty then none else some (String.ofList name)
  let fieldText := match rest with
    | '{' :: more =>
      match more.span (· ≠ '}') with
      | (fs, '}' :: _) => some fs
      | _ => none
    | _ => none
  let filters := match fieldText with
    | some fs => (fieldMatches fs (fs.length + 1)).map fieldFilter
    | none => []
  if filters.all fun f => (f.2.map fieldValueReads).getD true then some (spanName, filters)
  else none

/-- Reads one directive. -/
def readDirective (d : String) : Option Directive :=
  if isLevelText d then
    (levelLimit? d).map fun l => { target := none, spanName := none, fields := [], limit := l }
  else
    let (pieces, rest) := readPieces 2 d.toList
    if pieces.isEmpty then none
    else
      let levelPart : Option (Option String) := match rest with
        | [] => some none
        | '=' :: [] => some none
        | '=' :: l => if isLevelText (String.ofList l) &&
            (l.length = 1 || !(l.all Char.isDigit)) then some (some (String.ofList l)) else none
        | _ => none
      match levelPart with
      | none => none
      | some level =>
        let (target, span) := lastPieces pieces
        let target := target.bind fun t => if (levelLimit? t).isSome then none else some t
        match span.map readSpanPart with
        | some none => none
        | spanPart =>
          let (spanName, fields) := (spanPart.bind id).getD (none, [])
          some { target, spanName, fields,
                 limit := (level.bind levelLimit?).getD 5 }

/-- A filter: its directives that can apply to events outside spans, most specific first. -/
structure LogFilter where
  directives : List Directive
  deriving Repr

/-- Whether directive `a` is tried before directive `b`: a longer target first (a target
before none), then more fields, then the greater target and field names. -/
def Directive.before (a b : Directive) : Bool :=
  let len := fun (d : Directive) => d.target.map (·.length + 1) |>.getD 0
  if len a ≠ len b then len a > len b
  else if a.fields.length ≠ b.fields.length then a.fields.length > b.fields.length
  else
    let ta := a.target.getD ""
    let tb := b.target.getD ""
    if ta ≠ tb then decide (tb < ta)
    else decide ((b.fields.map (·.1)) < (a.fields.map (·.1)))

/-- Whether two directives have the same target and field names. -/
def Directive.sameKey (a b : Directive) : Bool :=
  a.target = b.target && a.fields.map (·.1) = b.fields.map (·.1)

/-- Adds a directive: it replaces one with the same target and fields, or takes its place in
the order. -/
def addDirective (d : Directive) : List Directive → List Directive
  | [] => [d]
  | e :: es =>
    if e.sameKey d then d :: es
    else if d.before e then d :: e :: es
    else e :: addDirective d es

/-- The filter of some directives: only those without a span name and without field values
can apply to events outside spans. -/
def LogFilter.ofDirectives (ds : List Directive) : LogFilter :=
  let applicable := ds.filter fun d => d.spanName.isNone && d.fields.all (·.2.isNone)
  ⟨applicable.foldl (fun acc d => addDirective d acc) []⟩

/-- Reads a filter; `none` when a directive does not read. -/
def LogFilter.read (text : String) : Option LogFilter :=
  let parts := (text.splitOn ",").filter (· ≠ "")
  (parts.mapM readDirective).map LogFilter.ofDirectives

/-- The filter used when none is given or the given one does not read. -/
def LogFilter.fallback : LogFilter :=
  ⟨[{ target := some "waypoint", spanName := none, fields := [], limit := 3 },
    { target := some "dispatcher", spanName := none, fields := [], limit := 3 },
    { target := some "routing", spanName := none, fields := [], limit := 3 },
    { target := some "shared", spanName := none, fields := [], limit := 3 }].foldl
    (fun acc d => addDirective d acc) []⟩

/-- The filter for an optional setting. -/
def LogFilter.ofSetting : Option String → LogFilter
  | some text => (LogFilter.read text).getD LogFilter.fallback
  | none => LogFilter.fallback

/-- Whether a directive applies to an event: its target starts with the directive's target
and it carries the directive's fields. -/
def Directive.applies (d : Directive) (e : LogEvent) : Bool :=
  (d.target.all fun t => e.target.startsWith t) &&
  d.fields.all fun (name, _) => name = "message" || e.fields.any (·.1 = name)

/-- Whether a filter shows an event. -/
def LogFilter.shows (f : LogFilter) (e : LogEvent) : Bool :=
  match f.directives.find? (·.applies e) with
  | some d => e.level.rank ≤ d.limit
  | none => false

end RuleRouting.Cli
