import SourceWatch.Sink.Basic

/-!
# Dispatching to the sinks

Handing a payload to all sinks makes one job for each of them, in the order of registration. Jobs are
carried out at once, or wait in a queue if the dispatcher defers them. A job that fails is logged and
disturbs no other. A dispatcher that was shut down takes no more jobs, but carries out those that wait.

Main definitions:

* `Job`, `Job.perform`: the delivery of a payload to one sink.
* `Dispatcher`: the sinks, the waiting jobs, and whether it was shut down.
* `Dispatcher.submit`: handing a payload to all sinks.
* `Dispatcher.run`: carrying out waiting jobs.
-/

namespace SourceWatch

/-- The delivery of a payload to the sink at place `index`. -/
structure Job where
  index : Nat
  sink : Sink
  payload : Payload
  deriving DecidableEq

namespace Job

/-- The record about a job that failed. -/
def failureRecord (job : Job) (failure : SinkFailure) : LogRecord :=
  let cause := s!"{job.sink.name} failed: {failure.message}"
  match job.payload with
  | .finding f => ⟨.error, .dispatcher, s!"Alert delivery failed for finding {f.id}: {cause}"⟩
  | .announcement _ => ⟨.error, .dispatcher, s!"Announcement failed: {cause}"⟩

/-- The events of carrying out a job. -/
def perform (around : Surroundings) (job : Job) : List Event :=
  match job.sink.accept around job.index job.payload with
  | (events, none) => events
  | (events, some failure) => events ++ [.logged (job.failureRecord failure)]

/-- The events of carrying out jobs one after the other. -/
def performAll (around : Surroundings) (jobs : List Job) : List Event :=
  jobs.flatMap (perform around)

end Job

/-- The dispatcher was shut down and takes no more jobs. -/
inductive DispatcherClosed where
  | mk
  deriving DecidableEq

/-- The wording of the refusal. -/
def DispatcherClosed.message (_ : DispatcherClosed) : String :=
  "cannot schedule new futures after shutdown"

/-- The sinks and the jobs for them. -/
structure Dispatcher where
  sinks : List Sink
  /-- Whether jobs wait to be carried out. -/
  deferred : Bool
  /-- The jobs that wait, oldest first. -/
  queue : List Job
  closed : Bool
  deriving DecidableEq

namespace Dispatcher

/-- A dispatcher to the given sinks. -/
def ofSinks (sinks : List Sink) (deferred : Bool) : Dispatcher :=
  ⟨sinks, deferred, [], false⟩

/-- The names of the sinks. -/
def sinkNames (d : Dispatcher) : List String :=
  d.sinks.map (·.name)

/-- The jobs that hand a payload to every sink. -/
def jobsFor (d : Dispatcher) (payload : Payload) : List Job :=
  d.sinks.zipIdx.map fun (sink, index) => ⟨index, sink, payload⟩

/-- Hands a payload to every sink. The jobs that are carried out at once come with the result. A
dispatcher that was shut down refuses the first job; without sinks there is none to refuse. -/
def submit (d : Dispatcher) (payload : Payload) :
    Except DispatcherClosed (Dispatcher × List Job) :=
  if d.closed && !d.sinks.isEmpty then .error .mk
  else if d.deferred then .ok ({ d with queue := d.queue ++ d.jobsFor payload }, [])
  else .ok (d, d.jobsFor payload)

/-- The number of jobs that are not carried out yet. -/
def pending (d : Dispatcher) : Nat :=
  d.queue.length

/-- Whether no job waits. -/
def isDrained (d : Dispatcher) : Bool :=
  d.queue.isEmpty

/-- Carries out up to `count` waiting jobs, oldest first. -/
def run (d : Dispatcher) (count : Nat) : Dispatcher × List Job :=
  ({ d with queue := d.queue.drop count }, d.queue.take count)

/-- Takes no more jobs. -/
def shutdown (d : Dispatcher) : Dispatcher :=
  { d with closed := true }

end Dispatcher

end SourceWatch
