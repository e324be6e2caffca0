/-!
# Log events

The program reports what it does as events: a level, the component that logged it, a
message and named fields. A field is shown either as written or, for text, quoted with
escapes, the way a debug rendering of a string looks. `LogEvent.line` renders an event as
one line of the log: level, component, message, then the fields as `name=value`.
-/

namespace RuleRouting

/-- How important an event is. -/
inductive Level where
  | error
  | warn
  | info
  | debug
  | trace
  deriving Repr, DecidableEq, Inhabited

/-- The name of a level as the log shows it. -/
def Level.name : Level → String
  | .error => "ERROR"
  | .warn => "WARN"
  | .info => "INFO"
  | .debug => "DEBUG"
  | .trace => "TRACE"

/-- Verbosity rank: a filter at level `l` shows the events whose rank is at most `l`'s. -/
def Level.rank : Level → Nat
  | .error => 1
  | .warn => 2
  | .info => 3
  | .debug => 4
  | .trace => 5

/-- The two hex digits of a small number, without leading zeros. -/
def hexDigits (n : Nat) : String :=
  String.ofList (Nat.toDigits 16 n)

/-- One character of a quoted string: quotes, backslashes and control characters escaped. -/
def escapeDebugChar (c : Char) : String :=
  if c = '"' then "\\\""
  else if c = '\\' then "\\\\"
  else if c = '\n' then "\\n"
  else if c = '\r' then "\\r"
  else if c = '\t' then "\\t"
  else if c = '\x00' then "\\0"
  else if c.toNat < 0x20 || c.toNat = 0x7F then "\\u\x7b" ++ hexDigits c.toNat ++ "\x7d"
  else c.toString

/-- A string in quotes, escaped as a debug rendering shows it. -/
def debugQuote (s : String) : String :=
  "\"" ++ String.join (s.toList.map escapeDebugChar) ++ "\""

/-- The value of a field. -/
inductive FieldValue where
  /-- Shown as written. -/
  | shown (s : String)
  /-- Text shown quoted, with escapes. -/
  | quoted (s : String)
  deriving Repr, DecidableEq

/-- A field's value as the log line shows it. -/
def FieldValue.render : FieldValue → String
  | .shown s => s
  | .quoted s => debugQuote s

/-- An optional text, shown as `Some("…")` or `None`. -/
def FieldValue.optionalText : Option String → FieldValue
  | some s => .shown ("Some(" ++ debugQuote s ++ ")")
  | none => .shown "None"

/-- One logged event. -/
structure LogEvent where
  level : Level
  target : String
  message : String
  fields : List (String × FieldValue) := []
  deriving Repr

/-- The event as a log line: `LEVEL target: message name=value …`. -/
def LogEvent.line (e : LogEvent) : String :=
  e.level.name ++ " " ++ e.target ++ ": " ++ e.message ++
    String.join (e.fields.map fun (k, v) => " " ++ k ++ "=" ++ v.render)

end RuleRouting
