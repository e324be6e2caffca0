import RuleRouting.Config.Dispatcher
import RuleRouting.Yaml.Decode

/-!
# Reading a dispatcher configuration from YAML

Each record is read from a mapping with the discipline of `Yaml.Decode`. The records whose
target fields are embedded in them (a rule and a group route carry `route`, `extra` and
`status` beside their own fields) read their own fields loosely and gather the rest as typed
values, from which the target is read: so `route: 5` is refused while `methods: 5` reads as
the text `"5"`. Records without embedded fields may also be written as a sequence of their
fields in order.
-/

namespace RuleRouting

open Yaml

/-- The largest 64-bit unsigned value. -/
def maxU64 : Nat := Nat.pow 2 64 - 1

/-- Reads a listener. -/
def readListener (n : Node) : Decoded Listener := do
  let fs ← recordFields ["host", "port"] true n
  return { host := ← required fs "host" (readText .loose),
           port := ← required fs "port" (readNat Text.maxU16) }

/-- Reads a method an option may require: exactly `GET`, `POST`, `PUT` or `DELETE`. -/
def readHttpMethod : Node → Decoded HttpMethod
  | .scalar t _ =>
    if t = "GET" then pure .get else if t = "POST" then pure .post
    else if t = "PUT" then pure .put else if t = "DELETE" then pure .delete
    else throw "unknown variant"
  | _ => throw "invalid type, expected a method"

/-- Reads a domain rule. -/
def readDomain (n : Node) : Decoded DomainConfig := do
  let fs ← recordFields ["pattern", "module", "query"] true n
  return { pattern := ← required fs "pattern" (readText .loose),
           module := ← required fs "module" (readText .loose),
           query := ← optionalField fs "query" (readText .loose) }

/-- Reads a target from gathered fields. -/
def readTarget (fs : List (String × Node)) : Decoded TargetConfig := do
  return { route := ← optionalField fs "route" (readText .typed),
           extra := ← optionalField fs "extra" (readText .typed),
           status := ← optionalField fs "status" (readNat Text.maxU16) }

/-- Reads rule options. -/
def readOption (n : Node) : Decoded OptionConfig := do
  let fs ← recordFields ["method", "ext", "https"] true n
  return { method := ← optionalField fs "method" readHttpMethod,
           ext := ← optionalField fs "ext" (readText .loose),
           https := ← withDefault fs "https" false readBool }

/-- Reads a route of a group. -/
def readGroupRoute (n : Node) : Decoded GroupRouteConfig := do
  let fs ← mapEntries n
  let pattern ← required fs "pattern" (readText .loose)
  let target ← readTarget (← leftover fs ["pattern"])
  return { pattern, target }

/-- Reads a routing rule. -/
def readRule (n : Node) : Decoded RuleConfig := do
  let fs ← mapEntries n
  let methods ← withDefault fs "methods" "*" (readText .loose)
  let pattern ← optionalField fs "pattern" (readText .loose)
  let group ← optionalField fs "group" (readText .loose)
  let option ← withDefault fs "option" {} readOption
  let routes ← withDefault fs "routes" [] (readSeq readGroupRoute)
  let target ← readTarget (← leftover fs ["methods", "pattern", "group", "option", "routes"])
  return { methods, pattern, group, target, option, routes }

/-- Reads the URL map: text keys and values; a repeated key keeps its last value. -/
def readUrlMap (n : Node) : Decoded (OrderedMap String) := do
  let es ← mapEntries n
  let pairs ← es.mapM fun (k, v) => do return (k, ← readText .loose v)
  return OrderedMap.ofList pairs

/-- The fields of a dispatcher configuration, in order. -/
def dispatcherFields : List String :=
  ["listener", "admin_listener", "path_separator", "dispatch_timeout_ms", "url_map", "domains",
   "rules"]

/-- Reads a dispatcher configuration. -/
def readDispatcher (n : Node) : Decoded DispatcherConfig := do
  let fs ← recordFields dispatcherFields true n
  return { listener := ← required fs "listener" readListener,
           adminListener := ← required fs "admin_listener" readListener,
           pathSeparator := ← withDefault fs "path_separator" '/' readChar,
           dispatchTimeoutMs := ← optionalField fs "dispatch_timeout_ms" (readNat maxU64),
           urlMap := ← withDefault fs "url_map" OrderedMap.empty readUrlMap,
           domains := ← withDefault fs "domains" [] (readSeq readDomain),
           rules := ← withDefault fs "rules" [] (readSeq readRule) }

/-- The document of a YAML text; an empty stream reads as an empty plain scalar. -/
def documentOf (text : String) : Decoded Node :=
  (Yaml.parse text).map fun d => d.getD Node.empty

/-- Reads a dispatcher configuration from YAML text. -/
def DispatcherConfig.parse (text : String) : Decoded DispatcherConfig := do
  readDispatcher (← documentOf text)

end RuleRouting
