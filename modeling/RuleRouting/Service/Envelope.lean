import RuleRouting.Route.Basic

/-!
# The JSON envelope

A resolved route is answered with `{"code":0,"msg":"ok","data":{…}}`, where `data` holds
the module, controller and action (or `null`) and the query as an object whose keys keep the
query's order. The text is compact; in strings, `"` and `\` are escaped, control characters
are written as `\n`, `\r`, `\t`, `\b`, `\f` or `\u00XX`, and everything else is written as is.
-/

namespace RuleRouting

/-- One character of a JSON string. -/
def jsonChar (c : Char) : String :=
  if c = '"' then "\\\""
  else if c = '\\' then "\\\\"
  else if c = '\n' then "\\n"
  else if c = '\r' then "\\r"
  else if c = '\t' then "\\t"
  else if c = '\x08' then "\\b"
  else if c = '\x0C' then "\\f"
  else if c.toNat < 0x20 then
    let hex := Nat.toDigits 16 c.toNat
    "\\u" ++ String.ofList (List.replicate (4 - hex.length) '0' ++ hex)
  else c.toString

/-- A JSON string. -/
def jsonString (s : String) : String :=
  "\"" ++ String.join (s.toList.map jsonChar) ++ "\""

/-- A JSON string or `null`. -/
def jsonOptional : Option String → String
  | some s => jsonString s
  | none => "null"

/-- A query as a JSON object, keys in order. -/
def jsonQuery (q : Query) : String :=
  "\x7b" ++ String.intercalate "," (q.entries.map fun (k, v) => jsonString k ++ ":" ++ jsonString v)
    ++ "\x7d"

/-- The envelope of a resolved route. -/
def envelope (r : ResolvedRoute) : String :=
  "\x7b\"code\":0,\"msg\":\"ok\",\"data\":\x7b\"module\":" ++ jsonOptional r.route.module ++
    ",\"controller\":" ++ jsonOptional r.route.controller ++
    ",\"action\":" ++ jsonOptional r.route.action ++
    ",\"query\":" ++ jsonQuery r.query ++ "\x7d\x7d"

end RuleRouting
