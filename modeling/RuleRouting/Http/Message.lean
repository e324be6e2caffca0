import RuleRouting.Http.Uri
import RuleRouting.Route.Method
import RuleRouting.Log

/-!
# HTTP requests and responses

A request as it arrives: a method, a target and header lines. It is accepted when the method
is a token, the target is non-empty visible ASCII or non-ASCII bytes and reads as a URI, and
every header name is a token whose value holds only tabs, visible ASCII, spaces and non-ASCII
bytes; values lose surrounding blanks. Header names compare without regard to ASCII case.

A request also brings the time its handling takes: at each deadline check of its dispatch, the
milliseconds elapsed since it arrived. By default no time passes.

A response carries a status, its content type and location headers, and a body.
-/

namespace RuleRouting.Http

/-- A request as received. -/
structure RawRequest where
  method : String
  target : String
  headers : List (String × String)
  /-- The milliseconds elapsed since the request arrived, as the `n`-th deadline check of its
  dispatch reads them. -/
  elapsed : Nat → Nat := fun _ => 0

/-- A request the server accepted. -/
structure Request where
  method : Method
  uri : Uri
  headers : List (String × String)

/-- A response. -/
structure Response where
  status : Nat
  contentType : Option String := none
  location : Option String := none
  body : String := ""
  deriving Repr, DecidableEq

/-- Whether a byte may stand in a request target. -/
def isTargetByte (b : Nat) : Bool := b > 0x20 && b ≠ 0x7F

/-- Whether a byte may stand in a header value. -/
def isHeaderValueByte (b : Nat) : Bool := b = 0x09 || (b ≥ 0x20 && b ≠ 0x7F)

/-- A header value without surrounding spaces and tabs. -/
def trimHeaderValue (v : String) : String :=
  let blank := fun c => c = ' ' || c = '\t'
  String.ofList ((v.toList.dropWhile blank).reverse.dropWhile blank).reverse

/-- Reads a request as the server does; `none` when it is malformed. -/
def RawRequest.accept (r : RawRequest) : Option Request := do
  let method ← Method.ofName? r.method
  if r.target.isEmpty || !r.target.toList.all (charBytesAll isTargetByte) then none
  let uri ← parseTarget r.target
  let headersOk := r.headers.all fun (n, v) =>
    (Method.ofName? n).isSome && v.toList.all (charBytesAll isHeaderValueByte)
  if !headersOk then none
  return { method, uri, headers := r.headers.map fun (n, v) => (n, trimHeaderValue v) }

/-- The first value of a header, by name without regard to ASCII case. -/
def Request.header? (r : Request) (name : String) : Option String :=
  (r.headers.find? fun (n, _) => Text.eqIgnoreAsciiCase n name).map (·.2)

/-- Whether a header value is visible ASCII (spaces and tabs included), so that it reads as
text. -/
def isVisibleText (v : String) : Bool :=
  v.toList.all fun c => c = '\t' || (c.toNat ≥ 32 && c.toNat < 127)

/-- Whether a text may be sent as a header value: no control character but the tab. -/
def isHeaderValue (v : String) : Bool :=
  v.toList.all fun c => c = '\t' || (c.toNat ≥ 32 && c.toNat ≠ 127)

/-- Whether a number is a status code. -/
def isStatusCode (n : Nat) : Bool := 100 ≤ n && n ≤ 999

/-- The reason phrase of the error statuses the server sends. -/
def reasonPhrase : Nat → String
  | 400 => "Bad Request"
  | 404 => "Not Found"
  | 500 => "Internal Server Error"
  | 503 => "Service Unavailable"
  | _ => "an error occurred"

/-- A plain response whose body is the status's reason phrase. -/
def errorResponse (status : Nat) : Response :=
  { status, body := reasonPhrase status }

/-- Whether a response with this status, to a request with this method, is sent without a
body: a response to HEAD, a success response to CONNECT, and a 101, 204 or 304 response. -/
def isBodiless (method : Method) (status : Nat) : Bool :=
  method = Method.head || (method = Method.connect && 200 ≤ status && status < 300) ||
    status = 101 || status = 204 || status = 304

/-- Whether the server can send a response with this status: an informational status other
than 101 cannot be sent. -/
def isSendable (status : Nat) : Bool := !(100 ≤ status && status < 200 && status ≠ 101)

/-- The response as sent for a request with the given method: a response that cannot be sent
becomes an empty 500 with no headers, and some responses have no body (`isBodiless`). -/
def finalize (method : Method) (r : Response) : Response :=
  let r := if isSendable r.status then r else { status := 500 }
  if isBodiless method r.status then { r with body := "" } else r

/-- One request over a connection: the response sent, the events reported while answering,
and whether the connection then ends with an error, as it does when the request cannot be
read or the response cannot be sent. -/
structure Exchange where
  response : Response
  events : List LogEvent
  failed : Bool

/-- The answer to a request the server could not read. -/
def badRequest : Response := { status := 400 }

end RuleRouting.Http
