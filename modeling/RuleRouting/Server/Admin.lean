import RuleRouting.Http.Message

/-!
# The admin endpoint

The admin listener answers by path alone: `/health` and `/ready` are `ok` (the service is
ready as soon as it listens), and every other path is not found. Like every response it is
sent as the request's method allows.
-/

namespace RuleRouting

open Http

/-- The admin answer for a path. -/
def adminResponse (path : String) : Response :=
  if path = "/health" || path = "/ready" then { status := 200, body := "ok\n" }
  else errorResponse 404

/-- Serves one request on the admin listener, over a connection. -/
def adminExchange (raw : RawRequest) : Exchange :=
  match raw.accept with
  | none => ⟨badRequest, [], true⟩
  | some r => ⟨finalize r.method (adminResponse r.uri.path), [], false⟩

/-- Serves one request on the admin listener. -/
def serveAdmin (raw : RawRequest) : Response :=
  (adminExchange raw).response

end RuleRouting
