import SourceWatch.Json.Wire

/-!
# Requests and responses

Main definitions:

* `Request`, `Response`: what the service receives and answers.
* `Request.header?`: a header of a request by its name, whatever the case of the name.
* `Reply`: an answer before the headers that depend on the request are added.
-/

namespace SourceWatch.Service

/-- A request to the service. -/
structure Request where
  method : String
  /-- What the request is for: a path, perhaps with a query. -/
  target : String
  headers : List (String × String)
  body : String
  deriving DecidableEq

namespace Request

/-- The method of a request in upper case. -/
def verb (r : Request) : String :=
  String.ofList (r.method.toList.map Char.toUpper)

/-- The first header with a given lower-case name. -/
def header? (r : Request) (name : String) : Option String :=
  (r.headers.find? fun header => String.ofList (header.1.toList.map Char.toLower) = name).map (·.2)

end Request

/-- The body of a response. -/
inductive Body where
  | text (s : String)
  | document (value : Json)

/-- A response of the service. -/
structure Response where
  status : Nat
  headers : List (String × String)
  body : Body

/-- The header of a plain text. -/
def plainText : String × String :=
  ("content-type", "text/plain; charset=utf-8")

/-- The response to a request whose handling broke down. -/
def Response.breakdown : Response :=
  ⟨500, [plainText], .text "Internal Server Error"⟩

/-- An answer: a document with its status and its own headers, or none because the handling broke
down. -/
inductive Reply where
  | document (status : Nat) (headers : List (String × String)) (value : Json)
  | breakdown

namespace Reply

/-- The answer to a request that succeeded. -/
def success (value : Json) : Reply :=
  document 200 [] value

/-- An answer that tells a detail. -/
def detail (status : Nat) (value : Json) : Reply :=
  document status [] (.record [("detail", value)])

end Reply

end SourceWatch.Service
