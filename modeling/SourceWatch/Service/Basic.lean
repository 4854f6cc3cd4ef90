import SourceWatch.Monitor.Create
import SourceWatch.Service.Origin
import SourceWatch.Service.Route
import SourceWatch.Service.StartOrder

/-!
# The service

The service controls one monitor. It makes the monitor from the configuration when a request first needs
it; when that fails, the next such request tries again.

Main definitions:

* `Order`, `Intent`, `Request.intent`: what a request is after.
* `Monitor.obey`: carrying out an order.
* `Service`: the monitor, once it was made.
* `Service.handle`: a request and its response.
* `Service.shutdown`: closing the monitor.
-/

namespace SourceWatch

namespace Service

/-- What a request orders the monitor to do. -/
inductive Order where
  | scan
  | start (interval : Option Int)
  | stop
  | status
  | test
  deriving DecidableEq

/-- Why a request is refused. -/
inductive Refusal where
  | notFound
  | methodNotAllowed (allowed : String)
  | badBody (fault : BodyFault)

/-- The answer to a request that is refused. -/
def Refusal.reply : Refusal → Reply
  | notFound => .detail 404 (.string "Not Found")
  | methodNotAllowed allowed =>
    .document 405 [("allow", allowed)] (.record [("detail", .string "Method Not Allowed")])
  | badBody fault => fault.reply

/-- What a request is after. -/
inductive Intent where
  | preflight
  | refused (refusal : Refusal)
  | health
  | order (o : Order)

/-- What a request that a route takes is after. -/
def Route.intent (r : Request) : Route → Intent
  | health => .health
  | scan => .order .scan
  | start =>
    match r.interval with
    | .ok interval => .order (.start interval)
    | .error fault => .refused (.badBody fault)
  | stop => .order .stop
  | status => .order .status
  | test => .order .test

/-- What a request is after. -/
def Request.intent (r : Request) : Intent :=
  if r.isPreflight then .preflight
  else match Route.ofTarget? r.target with
    | none => .refused .notFound
    | some route =>
      if r.verb = route.verb then route.intent r
      else .refused (.methodNotAllowed route.verb)

/-- The response that an answer makes. A document that cannot be sent breaks the handling down, and a
request for the head alone gets no body. -/
def Request.respond (r : Request) : Reply → Response
  | .breakdown => .breakdown
  | .document status headers value =>
    if value.isSendable then
      ⟨status, ("content-type", "application/json") :: headers ++ originHeaders r,
        if r.verb = "HEAD" then .text "" else .document value⟩
    else .breakdown

end Service

open Service

/-- The record about a scan that failed. -/
def scanFailure (fault : MonitorFault) : String :=
  s!"Scan failed: {fault.message}"

/-- The monitor after an order, the events that it causes, and the answer. -/
def Monitor.obey (m : Monitor) (c : Circumstances) : Order → Monitor × List Event × Reply
  | .scan =>
    let o := m.scan c
    match o.result with
    | .ok report => (o.monitor, o.events, .success report.toJson)
    | .error .scanInProgress =>
      (o.monitor, o.events, .detail 409 (.string MonitorFault.scanInProgress.message))
    | .error fault =>
      (o.monitor, o.events ++ [.log .error .service (scanFailure fault)],
        .detail 500 (.string (scanFailure fault)))
  | .start interval =>
    let o := m.start c interval
    match o.result with
    | .ok _ => (o.monitor, o.events, .success o.monitor.status.toJson)
    | .error _ => (o.monitor, o.events, .breakdown)
  | .stop =>
    let o := m.stop c
    match o.result with
    | .ok _ => (o.monitor, o.events, .success o.monitor.status.toJson)
    | .error _ => (o.monitor, o.events, .breakdown)
  | .status => (m, [], .success m.status.toJson)
  | .test =>
    let o := m.sendTest c
    match o.result with
    | .ok f => (o.monitor, o.events, .success f.toJson)
    | .error _ => (o.monitor, o.events, .breakdown)

/-- The service: its monitor, once it was made. -/
structure Service where
  monitor : Option Monitor

namespace Service

/-- A service that has not made its monitor yet. -/
def fresh : Service :=
  ⟨none⟩

/-- The monitor of a service, which is made if need be, with the events of making it. -/
def obtain (s : Service) (c : Circumstances) (env : Environment) (voice : Voice) :
    List Event × Except SetupFault Monitor :=
  match s.monitor with
  | some m => ([], .ok m)
  | none => Monitor.load c.files env voice none []

/-- The service after a request, the events that the request causes, and the response. -/
def handle (s : Service) (c : Circumstances) (env : Environment) (voice : Voice) (r : Request) :
    Service × List Event × Response :=
  match r.intent with
  | .preflight => (s, [], preflightResponse r)
  | .refused refusal => (s, [], r.respond refusal.reply)
  | .health => (s, [], r.respond (.success (.record [("status", .string "ok")])))
  | .order order =>
    match s.obtain c env voice with
    | (events, .error _) => (s, events, r.respond .breakdown)
    | (events, .ok m) =>
      let (m, more, reply) := m.obey c order
      (⟨some m⟩, events ++ more, r.respond reply)

/-- The service with its monitor closed, the events of closing it, and why it cannot be closed. -/
def shutdown (s : Service) (c : Circumstances) : Service × List Event × Option MonitorFault :=
  match s.monitor with
  | none => (s, [], none)
  | some m =>
    let o := m.close c
    (⟨some o.monitor⟩, o.events, match o.result with
      | .ok () => none
      | .error fault => some fault)

end Service

end SourceWatch
