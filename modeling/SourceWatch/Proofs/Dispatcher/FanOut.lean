import SourceWatch.Proofs.Dispatcher.Calls
import SourceWatch.Proofs.Dispatcher.Pool
import Mathlib.Data.List.Induction

/-!
# One job for each sink

The queue of a dispatcher stands for the jobs in a pool that wait.  Here each call is spelled out as the steps that
it takes with the pool.  A dispatcher that does not defer its jobs has a pool that carries out each job as soon as it
is handed over, before the job is put into the set of pending jobs; otherwise jobs are carried out when the
dispatcher has long asked to be told of it.  Either way the set is left with the jobs that wait.

Main definitions:

* `Pool.serve`: a call as the steps that it takes with the pool;
* `Pool.holding`: the pool with jobs that are carried out and jobs that wait;
* `Pool.Orderly`: what holds of a pool in whatever order things happen;
* `FansOut`: what a dispatcher does along calls.

Main statements:

* `Pool.serve_holding`, `Pool.afterCalls_holding`: the queue stands for the jobs in the pool that wait;
* `Pool.orderly_afterAll`: what holds in whatever order things happen;
* `Dispatcher.executed_caughtUp`: jobs that are deferred come to the same as jobs that are not;
* `Dispatcher.fans_out`: one job for each sink, and each of them once.
-/

namespace SourceWatch

namespace Pool

/-! ### Calls -/

/-- The steps with a job that is handed to the pool and becomes the ticket at `place`.  A pool that does not defer
its jobs carries it out first of all. -/
def submission (deferred : Bool) (place : ℕ) (job : Job) : List Step :=
  .handOver job :: (if deferred then [] else [.finish place]) ++ [.register place, .watch place]

/-- Hands jobs to the pool, one after the other, until it refuses one. -/
def submitAll (deferred : Bool) (p : Pool) : List Job → Pool × CallReply
  | [] => (p, .done)
  | job :: jobs =>
    if p.closed then (p, .refused)
    else (p.afterAll (submission deferred p.tickets.length job)).submitAll deferred jobs

/-- The places of the jobs that wait, oldest first. -/
def waiting (p : Pool) : List ℕ :=
  (List.range p.tickets.length).filter p.waitsAt

/-- Serves a call.  Jobs that wait are carried out one after the other, and the dispatcher is told of each. -/
def serve (sinks : List Sink) (deferred : Bool) (p : Pool) : Call → Pool × CallReply
  | .dispatch f => p.submitAll deferred ((Dispatcher.ofSinks sinks deferred).jobsFor (.finding f))
  | .announce message =>
    p.submitAll deferred ((Dispatcher.ofSinks sinks deferred).jobsFor (.announcement message))
  | .run count =>
    (p.afterAll ((p.waiting.take count).flatMap fun place => [.finish place, .tell place]),
      .ran (p.waiting.take count).length)
  | .drain => (p, .drained p.drains)
  | .shutdown => (p.step .shutdown, .done)

/-- The pool after calls. -/
def afterCalls (sinks : List Sink) (deferred : Bool) (p : Pool) (calls : List Call) : Pool :=
  calls.foldl (fun p call => (p.serve sinks deferred call).1) p

/-- What calls yield. -/
def replies (sinks : List Sink) (deferred : Bool) (p : Pool) : List Call → List CallReply
  | [] => []
  | call :: calls =>
    (p.serve sinks deferred call).2 :: (p.serve sinks deferred call).1.replies sinks deferred calls

/-- The jobs that were carried out, in that order. -/
def executed (p : Pool) : List Job :=
  p.ran.filterMap fun place => p.tickets[place]?.map Ticket.job

/-- The jobs in the set of pending ones. -/
def pendingJobs (p : Pool) : List Job :=
  (p.tickets.filter Ticket.pending).map Ticket.job

/-- The jobs that were not carried out. -/
def unfinishedJobs (p : Pool) : List Job :=
  (p.tickets.filter fun t => !t.finished).map Ticket.job

/-! ### Pools at rest -/

/-- A job of which everything is done. -/
def settledTicket (job : Job) : Ticket :=
  ⟨job, true, true, true, true, false⟩

/-- A job that waits, and of which everything else is done. -/
def waitingTicket (job : Job) : Ticket :=
  ⟨job, true, true, false, false, true⟩

/-- The pool with jobs that were carried out, one after the other, and jobs that wait. -/
def holding (executed queue : List Job) (closed : Bool) : Pool :=
  ⟨closed, executed.map settledTicket ++ queue.map waitingTicket, List.range executed.length⟩

variable {done queue : List Job} {closed : Bool}

/-! ### One ticket -/

section

variable (earlier later : List Ticket) (t : Ticket) (ran : List ℕ)

theorem modify_length {α : Type} (xs : List α) (y : α) (ys : List α) (f : α → α) :
    (xs ++ y :: ys).modify xs.length f = xs ++ f y :: ys := by
  induction xs with
  | nil => rfl
  | cons x xs ih => exact congrArg (List.cons x) ih

theorem step_register : (Pool.mk closed (earlier ++ t :: later) ran).step (.register earlier.length) =
    ⟨closed, earlier ++ t.register :: later, ran⟩ :=
  congrArg (fun tickets => Pool.mk closed tickets ran) (modify_length earlier t later _)

theorem step_watch : (Pool.mk closed (earlier ++ t :: later) ran).step (.watch earlier.length) =
    ⟨closed, earlier ++ t.watch :: later, ran⟩ :=
  congrArg (fun tickets => Pool.mk closed tickets ran) (modify_length earlier t later _)

theorem step_tell : (Pool.mk closed (earlier ++ t :: later) ran).step (.tell earlier.length) =
    ⟨closed, earlier ++ t.tell :: later, ran⟩ :=
  congrArg (fun tickets => Pool.mk closed tickets ran) (modify_length earlier t later _)

theorem step_finish {t : Ticket} (h : t.finished = false) :
    (Pool.mk closed (earlier ++ t :: later) ran).step (.finish earlier.length) =
      ⟨closed, earlier ++ t.finish :: later, ran ++ [earlier.length]⟩ := by
  have hwaits : (Pool.mk closed (earlier ++ t :: later) ran).waitsAt earlier.length = true :=
    waitsAt_eq_true.mpr ⟨t, by simp, h⟩
  rw [step, if_pos hwaits]
  exact congrArg (fun tickets => Pool.mk closed tickets (ran ++ [earlier.length]))
    (modify_length earlier t later _)

end

/-! ### Handing over and carrying out -/

theorem length_settled (done : List Job) : (done.map settledTicket).length = done.length :=
  List.length_map _

/-- One job more that was carried out. -/
theorem holding_concat (done queue : List Job) (job : Job) (closed : Bool) :
    holding (done ++ [job]) queue closed =
      ⟨closed, done.map settledTicket ++ settledTicket job :: queue.map waitingTicket,
        List.range done.length ++ [done.length]⟩ := by
  rw [holding, List.map_append, List.append_assoc, List.length_append, List.length_singleton,
    List.range_succ]
  rfl

/-- A job is handed to a pool that defers it. -/
theorem afterAll_submission_deferred (done queue : List Job) (job : Job) :
    (holding done queue false).afterAll (submission true (holding done queue false).tickets.length job) =
      holding done (queue ++ [job]) false := by
  show (Pool.step (Pool.step ⟨false, (holding done queue false).tickets ++ [.fresh job],
    List.range done.length⟩ (.register _)) (.watch _)) = _
  rw [step_register, step_watch, holding, holding, List.map_append, List.append_assoc]
  rfl

/-- A job is handed to a pool that carries it out first of all. -/
theorem afterAll_submission_prompt (done : List Job) (job : Job) :
    (holding done [] false).afterAll (submission false (holding done [] false).tickets.length job) =
      holding (done ++ [job]) [] false := by
  have htickets : (holding done [] false).tickets = done.map settledTicket := List.append_nil _
  rw [htickets, holding_concat, ← length_settled done]
  show Pool.step (Pool.step (Pool.step ⟨false, (holding done [] false).tickets ++ [.fresh job],
    List.range done.length⟩ (.finish _)) (.register _)) (.watch _) = _
  rw [htickets, step_finish _ _ _ rfl, step_register, step_watch, ← length_settled done]
  rfl

/-- A job that waits is carried out, and the dispatcher is told of it. -/
theorem afterAll_finish_tell (done queue : List Job) (job : Job) (closed : Bool) :
    (holding done (job :: queue) closed).afterAll [.finish done.length, .tell done.length] =
      holding (done ++ [job]) queue closed := by
  rw [holding_concat, ← length_settled done]
  show Pool.step (Pool.step ⟨closed, done.map settledTicket ++ waitingTicket job :: queue.map waitingTicket,
    List.range done.length⟩ (.finish _)) (.tell _) = _
  rw [step_finish _ _ _ rfl, step_tell, ← length_settled done]
  rfl

/-- **Jobs are handed over.** -/
theorem submitAll_deferred (done queue jobs : List Job) :
    (holding done queue false).submitAll true jobs = (holding done (queue ++ jobs) false, .done) := by
  induction jobs generalizing queue with
  | nil => rw [submitAll, List.append_nil]
  | cons job jobs ih =>
    have hopen : ¬ (holding done queue false).closed = true := Bool.false_ne_true
    rw [submitAll, if_neg hopen, afterAll_submission_deferred, ih, List.append_assoc]
    rfl

theorem submitAll_prompt (done jobs : List Job) :
    (holding done [] false).submitAll false jobs = (holding (done ++ jobs) [] false, .done) := by
  induction jobs generalizing done with
  | nil => rw [submitAll, List.append_nil]
  | cons job jobs ih =>
    have hopen : ¬ (holding done [] false).closed = true := Bool.false_ne_true
    rw [submitAll, if_neg hopen, afterAll_submission_prompt, ih, List.append_assoc]
    rfl

/-- A pool that was shut down refuses the first job. -/
theorem submitAll_closed (deferred : Bool) (done queue : List Job) {jobs : List Job} (h : jobs ≠ []) :
    (holding done queue true).submitAll deferred jobs = (holding done queue true, .refused) := by
  cases jobs with
  | nil => exact absurd rfl h
  | cons job jobs => rfl

/-- The jobs that wait come after those that were carried out. -/
theorem waiting_holding (done queue : List Job) (closed : Bool) :
    (holding done queue closed).waiting = List.range' done.length queue.length := by
  have hdone : ∀ place ∈ List.range done.length, (holding done queue closed).waitsAt place = false := by
    intro place hplace
    rw [List.mem_range] at hplace
    simp [waitsAt, holding, List.getElem?_append_left, hplace, settledTicket]
  have hqueue : ∀ place ∈ List.range' done.length queue.length,
      (holding done queue closed).waitsAt place = true := by
    intro place hplace
    obtain ⟨hle, hlt⟩ := List.mem_range'_1.mp hplace
    have hlt' : place - done.length < queue.length := by omega
    simp [waitsAt, holding, List.getElem?_append_right, hle, hlt', waitingTicket]
  have hlength : (holding done queue closed).tickets.length = done.length + queue.length := by
    simp [holding]
  have hrange : List.range (done.length + queue.length) =
      List.range done.length ++ List.range' done.length queue.length := by
    rw [List.range_eq_range', List.range_eq_range', ← List.range'_append_1, Nat.zero_add]
  rw [waiting, hlength, hrange, List.filter_append, List.filter_eq_nil_iff.mpr (by simpa using hdone),
    List.filter_eq_self.mpr hqueue, List.nil_append]

/-- **Jobs that wait are carried out.** -/
theorem afterAll_run (done queue : List Job) (closed : Bool) (count : ℕ) :
    (holding done queue closed).afterAll
        (((List.range' done.length queue.length).take count).flatMap fun place =>
          [.finish place, .tell place]) =
      holding (done ++ queue.take count) (queue.drop count) closed := by
  induction queue generalizing done count with
  | nil => simp [afterAll]
  | cons job queue ih =>
    cases count with
    | zero => simp [afterAll]
    | succ count =>
      rw [List.length_cons, List.range'_succ, List.take_succ_cons, List.flatMap_cons, afterAll_append,
        afterAll_finish_tell]
      have hrest := ih (done ++ [job]) count
      rw [List.length_append, List.length_singleton] at hrest
      rw [hrest, List.append_assoc]
      rfl

/-! ### What a pool at rest holds -/

theorem filterMap_range {α : Type} (xs : List α) :
    (List.range xs.length).filterMap (fun place => xs[place]?) = xs := by
  induction xs using List.reverseRecOn with
  | nil => rfl
  | append_singleton xs x ih =>
    have hearlier : (List.range xs.length).filterMap (fun place => (xs ++ [x])[place]?) = xs := by
      refine (List.filterMap_congr fun place hplace => ?_).trans ih
      exact List.getElem?_append_left (List.mem_range.mp hplace)
    rw [List.length_append, List.length_singleton, List.range_succ, List.filterMap_append, hearlier]
    simp

theorem executed_holding (done queue : List Job) (closed : Bool) :
    (holding done queue closed).executed = done := by
  refine (List.filterMap_congr fun place hplace => ?_).trans (filterMap_range done)
  have hlt : place < done.length := List.mem_range.mp hplace
  simp [holding, List.getElem?_append_left, hlt, settledTicket]

/-- What picks the jobs that wait, and none that was carried out, picks the queue. -/
theorem filter_holding {p : Ticket → Bool} (hdone : ∀ job, p (settledTicket job) = false)
    (hqueue : ∀ job, p (waitingTicket job) = true) (done queue : List Job) (closed : Bool) :
    (holding done queue closed).tickets.filter p = queue.map waitingTicket := by
  have hnone : (done.map settledTicket).filter p = [] := by
    rw [List.filter_eq_nil_iff]
    intro t ht
    obtain ⟨job, -, rfl⟩ := List.mem_map.mp ht
    rw [hdone]
    exact Bool.false_ne_true
  have hall : (queue.map waitingTicket).filter p = queue.map waitingTicket := by
    rw [List.filter_eq_self]
    intro t ht
    obtain ⟨job, -, rfl⟩ := List.mem_map.mp ht
    exact hqueue job
  rw [holding, List.filter_append, hnone, hall, List.nil_append]

theorem job_waitingTicket (queue : List Job) : (queue.map waitingTicket).map Ticket.job = queue := by
  rw [List.map_map]
  exact List.map_id queue

theorem pendingJobs_holding (done queue : List Job) (closed : Bool) :
    (holding done queue closed).pendingJobs = queue := by
  rw [pendingJobs, filter_holding (fun _ => rfl) (fun _ => rfl), job_waitingTicket]

theorem unfinishedJobs_holding (done queue : List Job) (closed : Bool) :
    (holding done queue closed).unfinishedJobs = queue := by
  rw [unfinishedJobs, filter_holding (fun _ => rfl) (fun _ => rfl), job_waitingTicket]

theorem drains_holding (done queue : List Job) (closed : Bool) :
    (holding done queue closed).drains = queue.isEmpty := by
  rw [drains, filter_holding (fun _ => rfl) (fun _ => rfl)]
  cases queue <;> rfl

/-! ### The queue stands for the jobs that wait -/

variable {d : Dispatcher}

/-- A payload is handed to the sinks. -/
theorem submitAll_hand (h : d.Prompt) (done : List Job) (payload : Payload) :
    (holding done d.queue d.closed).submitAll d.deferred (d.jobsFor payload) =
      (holding (done ++ (d.hand payload).jobs) (d.hand payload).next.queue (d.hand payload).next.closed,
        (d.hand payload).reply) := by
  obtain ⟨sinks, deferred, queue, closed⟩ := d
  cases hr : (Dispatcher.mk sinks deferred queue closed).refuses with
  | true =>
    -- it was shut down, and there is a first job to refuse
    rw [Dispatcher.hand_of_refuses hr, List.append_nil]
    rw [Dispatcher.refuses, Bool.and_eq_true] at hr
    obtain ⟨rfl, hsinks⟩ : closed = true ∧ _ := hr
    refine submitAll_closed deferred done queue fun hnone => ?_
    cases sinks with
    | nil => cases hsinks
    | cons sink sinks => cases hnone
  | false =>
    rw [Dispatcher.hand_of_accepts hr]
    cases closed with
    | true =>
      -- it was shut down, and there is no sink
      cases sinks with
      | nil => cases deferred <;> simp [submitAll, Dispatcher.jobsFor, Dispatcher.taking]
      | cons sink sinks => cases hr
    | false =>
      cases deferred with
      | true =>
        refine (submitAll_deferred done queue _).trans ?_
        show _ = (holding (done ++ []) _ false, CallReply.done)
        rw [List.append_nil]
        rfl
      | false =>
        have hqueue : queue = [] := h rfl
        subst hqueue
        exact submitAll_prompt done _

/-- **One call.** -/
theorem serve_holding (h : d.Prompt) (done : List Job) (call : Call) :
    (holding done d.queue d.closed).serve d.sinks d.deferred call =
      (holding (done ++ (d.serve call).jobs) (d.serve call).next.queue (d.serve call).next.closed,
        (d.serve call).reply) := by
  cases call with
  | dispatch f => exact submitAll_hand h done (.finding f)
  | announce message => exact submitAll_hand h done (.announcement message)
  | run count =>
    show ((holding done d.queue d.closed).afterAll _, CallReply.ran _) = _
    rw [waiting_holding, afterAll_run]
    have hlength : ((List.range' done.length d.queue.length).take count).length =
        (d.queue.take count).length := by simp
    rw [hlength]
    rfl
  | drain =>
    show (holding done d.queue d.closed, CallReply.drained _) = (holding (done ++ []) d.queue d.closed, _)
    rw [drains_holding, List.append_nil]
    rfl
  | shutdown =>
    show (holding done d.queue true, CallReply.done) = (holding (done ++ []) d.queue true, CallReply.done)
    rw [List.append_nil]

/-- **All calls.** -/
theorem afterCalls_holding (h : d.Prompt) (done : List Job) (calls : List Call) :
    (holding done d.queue d.closed).afterCalls d.sinks d.deferred calls =
        holding (done ++ d.executed calls) (d.afterCalls calls).queue (d.afterCalls calls).closed ∧
      (holding done d.queue d.closed).replies d.sinks d.deferred calls = d.replies calls := by
  induction calls generalizing d done with
  | nil =>
    rw [Dispatcher.executed, List.append_nil]
    exact ⟨rfl, rfl⟩
  | cons call calls ih =>
    have hserves := Dispatcher.serve_serves d call
    obtain ⟨hnext, hreplies⟩ := ih (hserves.prompt h) (done ++ (d.serve call).jobs)
    rw [hserves.sinks_eq, hserves.deferred_eq] at hnext hreplies
    constructor
    · show (((holding done d.queue d.closed).serve d.sinks d.deferred call).1).afterCalls _ _ calls = _
      rw [serve_holding h, hnext, Dispatcher.executed, List.append_assoc]
      rfl
    · rw [replies, Dispatcher.replies, serve_holding h, hreplies]

/-! ### In whatever order -/

/-- **What holds of a pool in whatever order things happen.**  Asking late takes a job out of the set that was
finished before. -/
structure Orderly (p : Pool) : Prop where
  once : p.ran.Nodup
  ran : ∀ place, place ∈ p.ran ↔ ∃ t, p.tickets[place]? = some t ∧ t.finished = true
  keeps : ∀ steps, p.jobs <+: (p.afterAll steps).jobs
  waits : ∀ t ∈ p.tickets, t.registered = true → t.finished = false → t.pending = true
  late : ∀ t ∈ p.tickets, t.registered = true → t.finished = true → t.watch.pending = false
  leaves : ∀ t ∈ p.tickets, t.told = true → t.pending = false
  drains : p.drains = true ↔ ∀ t ∈ p.tickets, t.registered = true → t.finished = true
  rest : p.AtRest → ∀ t ∈ p.tickets, t.pending = !t.finished

theorem orderly_afterAll (steps : List Step) : (empty.afterAll steps).Orderly := by
  have h := accounted_afterAll steps
  exact
    { once := h.once
      ran := h.mem_ran
      keeps := jobs_afterAll _
      waits := fun t ht => h.pending_of_waits ht
      late := fun t _ hregistered hfinished => by
        rw [Ticket.watch, if_pos hregistered, Ticket.tell]
        show (if (true && t.finished) = true then _ else _ : Ticket).pending = false
        rw [if_pos (by rw [hfinished]; rfl)]
      leaves := fun t ht htold => by
        rw [(h.sound t ht).pending, htold, Bool.not_true, Bool.and_false]
      drains := h.drains_iff
      rest := fun hrest t ht => h.pending_of_atRest hrest ht }

end Pool

/-- **What a dispatcher and its pool do along calls.**  The jobs that were carried out, and then those that wait, are
one job for each sink, in the order of registration, for each call that was not refused.  The pool carried out the
former, each of them once, and the latter are those that it did not carry out, and those that are pending. -/
structure FansOut (d : Dispatcher) (p : Pool) (calls : List Call) : Prop where
  handed : d.executed calls ++ (d.afterCalls calls).queue = (d.accepted calls).flatMap d.jobsFor
  replies : p.replies d.sinks d.deferred calls = d.replies calls
  executed : (p.afterCalls d.sinks d.deferred calls).executed = d.executed calls
  once : (p.afterCalls d.sinks d.deferred calls).ran.Nodup
  unfinished : (p.afterCalls d.sinks d.deferred calls).unfinishedJobs = (d.afterCalls calls).queue
  pending : (p.afterCalls d.sinks d.deferred calls).pendingJobs = (d.afterCalls calls).queue
  drained : ((d.afterCalls calls).serve .drain).reply = .drained true ↔ (d.afterCalls calls).queue = []
  accepts : .shutdown ∉ calls → ∀ call payload, call.payload? = some payload →
    ((d.afterCalls calls).serve call).reply = .done
  refuses : .shutdown ∈ calls → d.sinks ≠ [] → ∀ call payload, call.payload? = some payload →
    (d.afterCalls calls).serve call = ⟨d.afterCalls calls, [], .refused⟩
  withoutSinks : d.sinks = [] → ∀ call payload, call.payload? = some payload →
    (d.afterCalls calls).serve call = ⟨d.afterCalls calls, [], .done⟩

namespace Dispatcher

variable (sinks : List Sink) (deferred : Bool)

theorem prompt_ofSinks : (ofSinks sinks deferred).Prompt :=
  fun _ => rfl

/-- What a call that hands over a payload does. -/
theorem serve_of_payload {call : Call} {payload : Payload} (h : call.payload? = some payload)
    (d : Dispatcher) : d.serve call = d.hand payload := by
  cases call with
  | dispatch f =>
    cases h
    rfl
  | announce message =>
    cases h
    rfl
  | run count => cases h
  | drain => cases h
  | shutdown => cases h

theorem fansOut (calls : List Call) : FansOut (ofSinks sinks deferred) .empty calls := by
  have hprompt := prompt_ofSinks sinks deferred
  have hpool : Pool.empty.afterCalls sinks deferred calls = Pool.holding ((ofSinks sinks deferred).executed calls)
      ((ofSinks sinks deferred).afterCalls calls).queue ((ofSinks sinks deferred).afterCalls calls).closed :=
    (Pool.afterCalls_holding hprompt [] calls).1
  have hclosed := closed_afterCalls (ofSinks sinks deferred) calls
  have hsinks : ((ofSinks sinks deferred).afterCalls calls).sinks = sinks := sinks_afterCalls _ calls
  exact
    { handed := executed_append_queue hprompt calls
      replies := (Pool.afterCalls_holding hprompt [] calls).2
      executed := (congrArg Pool.executed hpool).trans (Pool.executed_holding _ _ _)
      once := by
        show (Pool.empty.afterCalls sinks deferred calls).ran.Nodup
        rw [hpool]
        exact List.nodup_range
      unfinished := (congrArg Pool.unfinishedJobs hpool).trans (Pool.unfinishedJobs_holding _ _ _)
      pending := (congrArg Pool.pendingJobs hpool).trans (Pool.pendingJobs_holding _ _ _)
      drained := by
        show CallReply.drained _ = CallReply.drained true ↔ _
        rw [CallReply.drained.injEq]
        exact List.isEmpty_iff
      accepts := fun hopen call payload hp => by
        have hr : ((ofSinks sinks deferred).afterCalls calls).refuses = false := by
          refine refuses_of_open (Bool.eq_false_iff.mpr fun h => ?_)
          exact (hclosed.mp h).elim Bool.false_ne_true hopen
        rw [serve_of_payload hp, hand_of_accepts hr]
      refuses := fun hshut hsome call payload hp => by
        have hr : ((ofSinks sinks deferred).afterCalls calls).refuses = true := by
          rw [Dispatcher.refuses, hclosed.mpr (.inr hshut), hsinks]
          cases sinks with
          | nil => exact absurd rfl hsome
          | cons sink sinks => rfl
        rw [serve_of_payload hp, hand_of_refuses hr]
      withoutSinks := fun hnone call payload hp => by
        have hnone' : ((ofSinks sinks deferred).afterCalls calls).sinks = [] := hsinks.trans hnone
        have hr : ((ofSinks sinks deferred).afterCalls calls).refuses = false := by
          rw [Dispatcher.refuses, hnone']
          exact Bool.and_false _
        have hjobs : ((ofSinks sinks deferred).afterCalls calls).jobsFor payload = [] := by
          rw [jobsFor, hnone']
          rfl
        rw [serve_of_payload hp, hand_of_accepts hr, hjobs, taking_nil, ite_self] }

/-- **Catching up.**  Carrying out all jobs that wait leads to the jobs that would have been carried out at once. -/
theorem executed_caughtUp (calls : List Call) :
    (ofSinks sinks true).executed (calls ++ [.run ((ofSinks sinks true).afterCalls calls).pending]) =
      (ofSinks sinks false).executed calls := by
  have hdeferred := executed_append_queue (prompt_ofSinks sinks true) calls
  have hprompt := executed_append_queue (prompt_ofSinks sinks false) calls
  have hqueue : ((ofSinks sinks false).afterCalls calls).queue = [] :=
    prompt_afterCalls (prompt_ofSinks sinks false) calls (deferred_afterCalls _ calls)
  have haccepted : (ofSinks sinks true).accepted calls = (ofSinks sinks false).accepted calls :=
    accepted_congr (d := ofSinks sinks true) (e := ofSinks sinks false) rfl rfl calls
  rw [hqueue, List.append_nil] at hprompt
  calc (ofSinks sinks true).executed (calls ++ [.run ((ofSinks sinks true).afterCalls calls).pending])
      = (ofSinks sinks true).executed calls ++ ((ofSinks sinks true).afterCalls calls).queue := by
        rw [executed_append, executed, executed, List.append_nil]
        exact congrArg _ List.take_length
    _ = ((ofSinks sinks false).accepted calls).flatMap (ofSinks sinks true).jobsFor := by
        rw [hdeferred, haccepted]
        rfl
    _ = (ofSinks sinks false).executed calls := hprompt.symm

/-- **One job for each sink, and each of them once.**  Whether jobs are deferred or carried out at once, and whenever
the pool carries them out, the sinks are handed the same. -/
theorem fans_out (calls : List Call) :
    (∀ deferred, FansOut (ofSinks sinks deferred) .empty calls) ∧
      (∀ around,
        Job.performAll around ((ofSinks sinks true).executed
            (calls ++ [.run ((ofSinks sinks true).afterCalls calls).pending])) =
          Job.performAll around ((ofSinks sinks false).executed calls)) ∧
      ∀ steps, (Pool.empty.afterAll steps).Orderly :=
  ⟨fun deferred => fansOut sinks deferred calls,
    fun around => congrArg (Job.performAll around) (executed_caughtUp sinks calls), Pool.orderly_afterAll⟩

end Dispatcher

end SourceWatch
