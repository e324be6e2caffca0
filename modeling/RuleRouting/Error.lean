import RuleRouting.Regex.Report

/-!
# Errors

Registration refuses a malformed rule with a `RoutingError`, so that a built router never
meets one while dispatching. Dispatching itself fails only when the request's deadline
passes during the rule walk.
-/

namespace RuleRouting

/-- Why a rule could not be registered. -/
inductive RoutingError where
  | emptyPattern
  /-- A delimited pattern whose body (the expression between the slashes) is refused. -/
  | invalidRegex (pattern body : String) (cause : Regex.Error)
  | invalidRegexFlag (pattern : String) (flag : Char)
  | invalidMethod (filter : String)
  | invalidStatus (address status : String)
  | expectedGroup (pattern : String)
  | unexpectedGroup (pattern : String)
  deriving Inhabited

/-- The kind of a registration error, as a name. -/
def RoutingError.kind : RoutingError → String
  | .emptyPattern => "EmptyPattern"
  | .invalidRegex .. => "InvalidRegex"
  | .invalidRegexFlag .. => "InvalidRegexFlag"
  | .invalidMethod _ => "InvalidMethod"
  | .invalidStatus .. => "InvalidStatus"
  | .expectedGroup _ => "ExpectedGroup"
  | .unexpectedGroup _ => "UnexpectedGroup"

/-- The text of a registration error; a refused regular expression carries the report of its
body, which spans several lines. -/
def RoutingError.message : RoutingError → String
  | .emptyPattern => "rule pattern cannot be empty"
  | .invalidRegex p body e => "invalid regex rule " ++ p ++ ": " ++ e.report body
  | .invalidRegexFlag p c => "unsupported regex flag '" ++ c.toString ++ "' in rule " ++ p
  | .invalidMethod f => "invalid method filter: " ++ f
  | .invalidStatus a s => "invalid redirect status for " ++ a ++ ": " ++ s
  | .expectedGroup p => "group " ++ p ++ " requires a list of child routes"
  | .unexpectedGroup p => "child routes given for non-group rule " ++ p

/-- Why dispatching stopped. -/
inductive DispatchError where
  | deadlineExceeded
  deriving DecidableEq, Inhabited

/-- The text of a dispatch error. -/
def DispatchError.message : DispatchError → String
  | .deadlineExceeded => "request deadline exceeded during rule walk"

end RuleRouting
