import SourceWatch.Service.Message

/-!
# Requests of other origins

A page of another origin may use the service if the origin is trusted. Before a page sends a request of
its own making, it asks leave by a preflight, which the service answers at every path.

Main definitions:

* `trustedOrigins`, `sharedMethods`: who may use the service, and how.
* `originHeaders`: the headers of a response that concern the origin of the request.
* `Request.isPreflight`, `preflightResponse`: preflights and the response to them.
-/

namespace SourceWatch.Service

/-- The origins whose pages may use the service. -/
def trustedOrigins : List String :=
  ["http://localhost:5173", "http://localhost:3000", "http://localhost:8000"]

/-- The methods that pages of other origins may use. -/
def sharedMethods : List String :=
  ["POST", "GET"]

/-- The header that tells a trusted origin that it is trusted. -/
def trustHeader (r : Request) : List (String × String) :=
  match r.header? "origin" with
  | some origin =>
    if trustedOrigins.contains origin then [("access-control-allow-origin", origin)] else []
  | none => []

/-- The headers of a response that concern the origin of the request. -/
def originHeaders (r : Request) : List (String × String) :=
  ("vary", "Origin") :: trustHeader r

/-- Whether a request is a preflight. -/
def Request.isPreflight (r : Request) : Bool :=
  (r.header? "origin").isSome && r.verb = "OPTIONS" &&
    (r.header? "access-control-request-method").isSome

/-- What a preflight asks for and does not get. -/
def preflightFailures (r : Request) : List String :=
  (if trustedOrigins.contains ((r.header? "origin").getD "") then [] else ["origin"]) ++
  (if sharedMethods.contains ((r.header? "access-control-request-method").getD "") then []
    else ["method"]) ++
  (if (r.header? "access-control-request-private-network").isSome then ["private-network"] else [])

/-- The headers of the response to a preflight. Every header that the page wants to send is allowed. -/
def preflightHeaders (r : Request) : List (String × String) :=
  let allowed := match r.header? "access-control-request-headers" with
    | some names => [("access-control-allow-headers", names)]
    | none => []
  [("vary", "Origin, Access-Control-Request-Method, Access-Control-Request-Headers, " ++
      "Access-Control-Request-Private-Network"),
    ("access-control-allow-methods", ", ".intercalate sharedMethods),
    ("access-control-max-age", "600")] ++ trustHeader r ++ allowed ++ [plainText]

/-- The response to a preflight. -/
def preflightResponse (r : Request) : Response :=
  match preflightFailures r with
  | [] => ⟨200, preflightHeaders r, .text "OK"⟩
  | failures =>
    ⟨400, preflightHeaders r, .text ("Disallowed CORS " ++ ", ".intercalate failures)⟩

end SourceWatch.Service
