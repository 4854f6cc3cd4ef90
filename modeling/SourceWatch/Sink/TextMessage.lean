import SourceWatch.Alert
import SourceWatch.Environment
import SourceWatch.Sink.Event
import SourceWatch.Sink.Url
import SourceWatch.Text.Base64

/-!
# Text message alerts

A text message is sent by one request to a service: a form with the sender, the receiver and the text,
posted below the account of the sender.

Main definitions:

* `Credentials`, `Credentials.ofEnvironment`: the account, or the names of the variables that lack.
* `GatewayOutcome`: how the service answers.
* `TextMessenger.send`: sending a finding.
-/

namespace SourceWatch

open Text

/-- The account that text messages are sent with. -/
structure Credentials where
  account : String
  token : String
  sender : String
  receiver : String
  deriving DecidableEq

namespace Credentials

/-- The variables that hold the credentials. -/
def variableNames : List String :=
  ["TWILIO_SID", "TWILIO_TOKEN", "TWILIO_FROM", "TWILIO_TO"]

/-- The variables that are missing or empty. -/
def missing (env : Environment) : List String :=
  variableNames.filter fun name => (env.nonempty? name).isNone

/-- The credentials in an environment, or the names of the variables that are missing or empty. -/
def ofEnvironment (env : Environment) : Except (List String) Credentials :=
  match env.nonempty? "TWILIO_SID", env.nonempty? "TWILIO_TOKEN", env.nonempty? "TWILIO_FROM",
    env.nonempty? "TWILIO_TO" with
  | some account, some token, some sender, some receiver => .ok ⟨account, token, sender, receiver⟩
  | _, _, _, _ => .error (missing env)

/-- The message about variables that are missing or empty. -/
def incomplete (names : List String) : String :=
  let list := ", ".intercalate names
  s!"SMS configuration incomplete (missing {list}). Text alerts disabled."

end Credentials

/-- How the text message service answers: with a status, or not at all. -/
inductive GatewayOutcome where
  | answered (status : Int)
  | unreachable (reason : String)
  deriving DecidableEq

/-- A text message that was not accepted. -/
inductive GatewayFailure where
  | status (status : Int) (url : String)
  | unreachable (reason : String)
  | badUrl (fault : Url.Fault)
  deriving DecidableEq

/-- The reasons that go with a status. -/
def statusReasons : List (Int × String) :=
  [(100, "Continue"), (101, "Switching Protocols"), (102, "Processing"), (103, "Early Hints"),
    (200, "OK"), (201, "Created"), (202, "Accepted"), (203, "Non-Authoritative Information"),
    (204, "No Content"), (205, "Reset Content"), (206, "Partial Content"), (207, "Multi-Status"),
    (208, "Already Reported"), (226, "IM Used"), (300, "Multiple Choices"),
    (301, "Moved Permanently"), (302, "Found"), (303, "See Other"), (304, "Not Modified"),
    (305, "Use Proxy"), (307, "Temporary Redirect"), (308, "Permanent Redirect"),
    (400, "Bad Request"), (401, "Unauthorized"), (402, "Payment Required"), (403, "Forbidden"),
    (404, "Not Found"), (405, "Method Not Allowed"), (406, "Not Acceptable"),
    (407, "Proxy Authentication Required"), (408, "Request Timeout"), (409, "Conflict"),
    (410, "Gone"), (411, "Length Required"), (412, "Precondition Failed"),
    (413, "Request Entity Too Large"), (414, "Request-URI Too Long"),
    (415, "Unsupported Media Type"), (416, "Requested Range Not Satisfiable"),
    (417, "Expectation Failed"), (418, "I'm a teapot"), (421, "Misdirected Request"),
    (422, "Unprocessable Entity"), (423, "Locked"), (424, "Failed Dependency"), (425, "Too Early"),
    (426, "Upgrade Required"), (428, "Precondition Required"), (429, "Too Many Requests"),
    (431, "Request Header Fields Too Large"), (451, "Unavailable For Legal Reasons"),
    (500, "Internal Server Error"), (501, "Not Implemented"), (502, "Bad Gateway"),
    (503, "Service Unavailable"), (504, "Gateway Timeout"), (505, "HTTP Version Not Supported"),
    (506, "Variant Also Negotiates"), (507, "Insufficient Storage"), (508, "Loop Detected"),
    (510, "Not Extended"), (511, "Network Authentication Required")]

/-- What kind of refusal a status is. -/
def statusClass (status : Int) : String :=
  match status.fdiv 100 with
  | 1 => "Informational response"
  | 3 => "Redirect response"
  | 4 => "Client error"
  | 5 => "Server error"
  | _ => "Invalid status code"

/-- The wording of a failure. -/
def GatewayFailure.message : GatewayFailure → String
  | status code url =>
    let reason := (statusReasons.lookup code).getD ""
    s!"{statusClass code} '{code} {reason}' for url '{url}'\n" ++
      s!"For more information check: https://developer.mozilla.org/en-US/docs/Web/HTTP/Status/{code}"
  | unreachable reason => reason
  | badUrl fault => fault.message

/-- The account and the service that text messages are sent with. -/
structure TextMessenger where
  credentials : Credentials
  service : BaseUrl
  deriving DecidableEq

namespace TextMessenger

/-- The service unless given otherwise. -/
def defaultService : BaseUrl :=
  BaseUrl.parse "https://api.twilio.com/2010-04-01"

/-- The fields of the form that sends a finding. -/
def form (c : Credentials) (f : Finding) : List (String × String) :=
  [("From", c.sender), ("To", c.receiver), ("Body", f.shortMessage)]

/-- The value that proves who sends a request. -/
def authorization (c : Credentials) : String :=
  "Basic " ++ String.ofList (base64 (Utf8.encodeString (c.account ++ ":" ++ c.token)))

/-- The request that sends a finding. -/
def request (m : TextMessenger) (f : Finding) : Except Url.Fault TextMessageRequest :=
  (Url.join m.service s!"/Accounts/{m.credentials.account}/Messages.json").map fun url =>
    { method := "POST"
      url := url
      authorization := authorization m.credentials
      contentType := "application/x-www-form-urlencoded"
      body := formBody (form m.credentials f) }

/-- Whether a status says that a message was accepted. -/
def accepts (status : Int) : Bool :=
  200 ≤ status && status < 300

/-- Sends a finding. -/
def send (m : TextMessenger) (outcome : GatewayOutcome) (f : Finding) :
    List Event × Option GatewayFailure :=
  match m.request f with
  | .error fault => ([], some (.badUrl fault))
  | .ok request =>
    match outcome with
    | .unreachable reason => ([.posted request], some (.unreachable reason))
    | .answered status =>
      if accepts status then
        ([.posted request,
          .log .info .smsSink s!"SMS alert sent for {f.category} in {f.fileName}"], none)
      else ([.posted request], some (.status status request.url))

end TextMessenger

end SourceWatch
