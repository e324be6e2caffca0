import RuleRouting.Text.Blank
import RuleRouting.Text.Split

/-!
# Request methods and method filters

A request method is an HTTP token: a non-empty run of the characters
`! # $ % & ' * + - . ^ _ | ~`, ASCII digits and letters, and the backquote. Methods compare
exactly, so `get` is not `GET`. A rule is registered under a filter list such as `GET|POST`
or `*`: the parts are split on `|` and trimmed, `*` means any method, an empty part is an
error, and every other part is uppercased (ASCII) and must be a method token.
-/

namespace RuleRouting

/-- An HTTP request method. -/
structure Method where
  name : String
  deriving Repr, DecidableEq, Inhabited

namespace Method

/-- Whether `c` may stand in a method token. -/
def isTokenChar (c : Char) : Bool :=
  c.isAlphanum || "!#$%&'*+-.^_`|~".toList.contains c

/-- Reads a method name; `none` unless it is a non-empty token. -/
def ofName? (s : String) : Option Method :=
  if !s.isEmpty && s.toList.all isTokenChar then some ⟨s⟩ else none

def get : Method := ⟨"GET"⟩
def post : Method := ⟨"POST"⟩
def put : Method := ⟨"PUT"⟩
def delete : Method := ⟨"DELETE"⟩
def head : Method := ⟨"HEAD"⟩
def connect : Method := ⟨"CONNECT"⟩

end Method

/-- The methods a rule is registered under. -/
inductive MethodFilter where
  /-- Every method. -/
  | any
  /-- One method. -/
  | only (m : Method)
  deriving Repr, DecidableEq

namespace MethodFilter

/-- Reads a filter list such as `GET|POST` or `*`; `none` when some part is empty or is not
a method. -/
def parseList (methods : String) : Option (List MethodFilter) :=
  (Text.split methods '|').mapM fun part =>
    let part := Text.trimBlankString part
    if part = "*" then some .any
    else if part.isEmpty then none
    else (Method.ofName? (Text.asciiUppercase part)).map .only

end MethodFilter

end RuleRouting
