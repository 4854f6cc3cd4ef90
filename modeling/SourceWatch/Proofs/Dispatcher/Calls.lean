import SourceWatch.Proofs.Dispatcher.Jobs

/-!
# What a dispatcher is asked

Whatever a dispatcher is asked, one call after the other, it makes one job for each sink of every payload that it
takes.  Each job is carried out at once, or waits in the queue until it is.  Which payloads are taken does not depend
on that.

Main definitions:

* `Call`, `CallReply`, `Dispatcher.serve`: what a dispatcher is asked, what it does and what it answers;
* `Dispatcher.Serves`: the ways in which a call is served;
* `Dispatcher.executed`, `Dispatcher.accepted`: the jobs that are carried out along calls, and the payloads that are
  taken.

Main statements:

* `Dispatcher.serve_serves`: every call is served in one of these ways;
* `Dispatcher.executed_append_queue`: every job is carried out or waits;
* `Dispatcher.accepted_congr`: which payloads are taken does not depend on when jobs are carried out.
-/

namespace SourceWatch

/-- What a dispatcher is asked. -/
inductive Call where
  | dispatch (f : Finding)
  | announce (message : String)
  /-- Carry out up to `count` waiting jobs. -/
  | run (count : ℕ)
  /-- Wait for the pending jobs, without time to wait. -/
  | drain
  | shutdown
  deriving DecidableEq

/-- What a call yields. -/
inductive CallReply where
  | done
  | refused
  | ran (count : ℕ)
  | drained (all : Bool)
  deriving DecidableEq

/-- The payload that a call hands to the sinks. -/
def Call.payload? : Call → Option Payload
  | dispatch f => some (.finding f)
  | announce message => some (.announcement message)
  | run _ | drain | shutdown => none

namespace Dispatcher

/-- What a call leaves behind, the jobs that it carries out, and what it yields. -/
structure Served where
  next : Dispatcher
  jobs : List Job
  reply : CallReply
  deriving DecidableEq

/-- Hands a payload to every sink. -/
def hand (d : Dispatcher) (payload : Payload) : Served :=
  match d.submit payload with
  | .error _ => ⟨d, [], .refused⟩
  | .ok (next, jobs) => ⟨next, jobs, .done⟩

/-- Serves a call. -/
def serve (d : Dispatcher) : Call → Served
  | .dispatch f => d.hand (.finding f)
  | .announce message => d.hand (.announcement message)
  | .run count => ⟨(d.run count).1, (d.run count).2, .ran (d.run count).2.length⟩
  | .drain => ⟨d, [], .drained d.isDrained⟩
  | .shutdown => ⟨d.shutdown, [], .done⟩

/-- The dispatcher after calls. -/
def afterCalls (d : Dispatcher) (calls : List Call) : Dispatcher :=
  calls.foldl (fun d call => (d.serve call).next) d

/-- The jobs that are carried out along calls, in that order. -/
def executed (d : Dispatcher) : List Call → List Job
  | [] => []
  | call :: calls => (d.serve call).jobs ++ (d.serve call).next.executed calls

/-- What calls yield. -/
def replies (d : Dispatcher) : List Call → List CallReply
  | [] => []
  | call :: calls => (d.serve call).reply :: (d.serve call).next.replies calls

/-- The payload that a call hands to the sinks, if it is not refused. -/
def Served.taken? (served : Served) (call : Call) : Option Payload :=
  if served.reply = .refused then none else call.payload?

/-- The payloads that are taken along calls. -/
def accepted (d : Dispatcher) : List Call → List Payload
  | [] => []
  | call :: calls => ((d.serve call).taken? call).toList ++ (d.serve call).next.accepted calls

/-- Nothing waits unless the dispatcher defers its jobs. -/
def Prompt (d : Dispatcher) : Prop :=
  d.deferred = false → d.queue = []

variable {d : Dispatcher}

/-! ### One call -/

/-- **The ways in which a call is served.** -/
inductive Serves (d : Dispatcher) : Call → Served → Prop
  | refused {call payload} (hands : call.payload? = some payload) (refuses : d.refuses = true) :
      Serves d call ⟨d, [], .refused⟩
  | taken {call payload} (hands : call.payload? = some payload) (accepts : d.refuses = false) :
      Serves d call
        ⟨d.taking (d.jobsFor payload), if d.deferred then [] else d.jobsFor payload, .done⟩
  | run (count : ℕ) :
      Serves d (.run count)
        ⟨{ d with queue := d.queue.drop count }, d.queue.take count, .ran (d.queue.take count).length⟩
  | drain : Serves d .drain ⟨d, [], .drained d.queue.isEmpty⟩
  | shutdown : Serves d .shutdown ⟨d.shutdown, [], .done⟩

theorem hand_of_refuses (h : d.refuses = true) (payload : Payload) : d.hand payload = ⟨d, [], .refused⟩ := by
  rw [hand, submit_of_refuses h]

theorem hand_of_accepts (h : d.refuses = false) (payload : Payload) :
    d.hand payload =
      ⟨d.taking (d.jobsFor payload), if d.deferred then [] else d.jobsFor payload, .done⟩ := by
  rw [hand, submit_of_accepts h]

theorem hand_serves {call : Call} {payload : Payload} (h : call.payload? = some payload) :
    Serves d call (d.hand payload) := by
  cases hr : d.refuses with
  | true =>
    rw [hand_of_refuses hr]
    exact .refused h hr
  | false =>
    rw [hand_of_accepts hr]
    exact .taken h hr

/-- **Every call is served in one of these ways.** -/
theorem serve_serves (d : Dispatcher) (call : Call) : Serves d call (d.serve call) := by
  cases call with
  | dispatch f => exact hand_serves rfl
  | announce message => exact hand_serves rfl
  | run count => exact .run count
  | drain => exact .drain
  | shutdown => exact .shutdown

namespace Serves

variable {call : Call} {served : Served}

theorem sinks_eq (h : Serves d call served) : served.next.sinks = d.sinks := by
  cases h with
  | taken => exact sinks_taking _ _
  | _ => rfl

theorem deferred_eq (h : Serves d call served) : served.next.deferred = d.deferred := by
  cases h with
  | taken => exact deferred_taking _ _
  | _ => rfl

/-- Only shutting down closes the dispatcher. -/
theorem closed_eq (h : Serves d call served) :
    served.next.closed = true ↔ d.closed = true ∨ call = .shutdown := by
  have hother : ∀ payload, call.payload? = some payload → call ≠ .shutdown := by
    rintro payload hp rfl
    cases hp
  cases h with
  | refused hands => exact (or_iff_left (hother _ hands)).symm
  | taken hands =>
    rw [closed_taking]
    exact (or_iff_left (hother _ hands)).symm
  | run count => exact (or_iff_left nofun).symm
  | drain => exact (or_iff_left nofun).symm
  | shutdown => exact iff_of_true rfl (.inr rfl)

/-- A call that hands over a payload is refused just in case the dispatcher refuses payloads. -/
theorem taken?_eq (h : Serves d call served) :
    served.taken? call = if d.refuses then none else call.payload? := by
  cases h with
  | refused _ refuses =>
    rw [refuses]
    rfl
  | taken _ accepts =>
    rw [accepts]
    rfl
  | run count => exact (ite_self _).symm
  | drain => exact (ite_self _).symm
  | shutdown => exact (ite_self _).symm

/-- **One call.**  The jobs that it carries out, and those that wait after it, are those that waited before and the
new ones. -/
theorem jobs_append_queue (h : Serves d call served) (prompt : d.Prompt) :
    served.jobs ++ served.next.queue = d.queue ++ (served.taken? call).toList.flatMap d.jobsFor := by
  cases h with
  | refused => exact (List.append_nil _).symm
  | @taken _ payload hands =>
    show (if d.deferred then [] else d.jobsFor payload) ++ (d.taking (d.jobsFor payload)).queue =
      d.queue ++ call.payload?.toList.flatMap d.jobsFor
    rw [hands]
    show _ = d.queue ++ (d.jobsFor payload ++ [])
    cases hd : d.deferred with
    | true => simp [taking, hd]
    | false => simp [taking, hd, prompt hd]
  | run count => exact (List.take_append_drop count d.queue).trans (List.append_nil _).symm
  | drain => exact (List.append_nil _).symm
  | shutdown => exact (List.append_nil _).symm

theorem prompt (h : Serves d call served) (prompt : d.Prompt) : served.next.Prompt := by
  intro hd
  rw [h.deferred_eq] at hd
  have hqueue := prompt hd
  cases h with
  | taken =>
    show (d.taking _).queue = []
    rw [taking, hd]
    exact hqueue
  | run count =>
    show d.queue.drop count = []
    rw [hqueue, List.drop_nil]
  | _ => exact hqueue

end Serves

/-! ### Calls -/

theorem afterCalls_cons (d : Dispatcher) (call : Call) (calls : List Call) :
    d.afterCalls (call :: calls) = (d.serve call).next.afterCalls calls :=
  rfl

/-- What holds at first and is preserved by every call holds after all calls. -/
theorem afterCalls_invariant (Inv : Dispatcher → Prop) (hstart : Inv d)
    (hstep : ∀ d call, Inv d → Inv (d.serve call).next) (calls : List Call) : Inv (d.afterCalls calls) := by
  induction calls generalizing d with
  | nil => exact hstart
  | cons call calls ih => exact ih (hstep d call hstart)

/-- **Every job is carried out or waits.** -/
theorem executed_append_queue (h : d.Prompt) (calls : List Call) :
    d.executed calls ++ (d.afterCalls calls).queue = d.queue ++ (d.accepted calls).flatMap d.jobsFor := by
  induction calls generalizing d with
  | nil => exact (List.append_nil _).symm
  | cons call calls ih =>
    have hserves := serve_serves d call
    have hjobsFor : (d.serve call).next.jobsFor = d.jobsFor := by
      funext payload
      rw [jobsFor, jobsFor, hserves.sinks_eq]
    have hrest := ih (hserves.prompt h)
    rw [hjobsFor] at hrest
    calc d.executed (call :: calls) ++ (d.afterCalls (call :: calls)).queue
        = (d.serve call).jobs ++ ((d.serve call).next.executed calls ++
            ((d.serve call).next.afterCalls calls).queue) := List.append_assoc _ _ _
      _ = ((d.serve call).jobs ++ (d.serve call).next.queue) ++
            ((d.serve call).next.accepted calls).flatMap d.jobsFor := by
          rw [hrest, List.append_assoc]
      _ = d.queue ++ (d.accepted (call :: calls)).flatMap d.jobsFor := by
          rw [hserves.jobs_append_queue h, accepted, List.flatMap_append, List.append_assoc]

/-- What is taken does not depend on when jobs are carried out. -/
theorem accepted_congr {e : Dispatcher} (hsinks : d.sinks = e.sinks) (hclosed : d.closed = e.closed)
    (calls : List Call) : d.accepted calls = e.accepted calls := by
  induction calls generalizing d e with
  | nil => rfl
  | cons call calls ih =>
    have hd := serve_serves d call
    have he := serve_serves e call
    have hrefuses : d.refuses = e.refuses := by rw [refuses, refuses, hsinks, hclosed]
    rw [accepted, accepted, hd.taken?_eq, he.taken?_eq, hrefuses]
    refine congrArg _ (ih ?_ ?_)
    · rw [hd.sinks_eq, he.sinks_eq, hsinks]
    · rw [Bool.eq_iff_iff, hd.closed_eq, he.closed_eq, hclosed]

/-- A dispatcher is closed if it was shut down. -/
theorem closed_afterCalls (d : Dispatcher) (calls : List Call) :
    (d.afterCalls calls).closed = true ↔ d.closed = true ∨ .shutdown ∈ calls := by
  induction calls generalizing d with
  | nil => exact (or_iff_left List.not_mem_nil).symm
  | cons call calls ih =>
    rw [afterCalls_cons, ih, (serve_serves d call).closed_eq, or_assoc, List.mem_cons, @eq_comm _ call]

theorem sinks_afterCalls (d : Dispatcher) (calls : List Call) : (d.afterCalls calls).sinks = d.sinks :=
  afterCalls_invariant (fun e => e.sinks = d.sinks) rfl
    (fun e call h => (serve_serves e call).sinks_eq.trans h) calls

theorem prompt_afterCalls (h : d.Prompt) (calls : List Call) : (d.afterCalls calls).Prompt :=
  afterCalls_invariant Prompt h (fun e call h => (serve_serves e call).prompt h) calls

theorem deferred_afterCalls (d : Dispatcher) (calls : List Call) :
    (d.afterCalls calls).deferred = d.deferred :=
  afterCalls_invariant (fun e => e.deferred = d.deferred) rfl
    (fun e call h => (serve_serves e call).deferred_eq.trans h) calls

theorem executed_append (d : Dispatcher) (calls more : List Call) :
    d.executed (calls ++ more) = d.executed calls ++ (d.afterCalls calls).executed more := by
  induction calls generalizing d with
  | nil => rfl
  | cons call calls ih =>
    rw [List.cons_append, executed, executed, ih, List.append_assoc]
    rfl

end Dispatcher

end SourceWatch
